import StructForge.Schema.TypeRef

/-! # Source types

A source type is described by its name, its place and its public fields in declaration order. -/

namespace StructForge.Schema

structure Field where
  name : String
  type : TypeRef
  deriving Repr, Inhabited

/-- The description of a source type. -/
structure Source where
  name : String
  module : String
  qualname : String
  fields : List Field
  deriving Repr, Inhabited

def Source.path (s : Source) : String := s!"{s.module}.{s.qualname}"

end StructForge.Schema

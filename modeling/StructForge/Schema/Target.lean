import StructForge.Schema.Source
import StructForge.Text.Identifier
import StructForge.Text.Quoted

/-! # Names of generated structs -/

namespace StructForge.Schema

/-- What generated names begin and end with. -/
structure Naming where
  typePrefix : String := "Native"
  fileSuffix : String := ".py"
  deriving DecidableEq, Repr

/-- The names of the struct generated for one source type. -/
structure Target where
  typeName : String
  fileName : String
  sourceName : String
  sourceModule : String
  sourceQualname : String
  deriving DecidableEq, Repr

def Target.sourcePath (t : Target) : String := s!"{t.sourceModule}.{t.sourceQualname}"

/-- The only naming fault: the struct's name is no identifier. -/
structure NamingFault where
  typeName : String
  deriving DecidableEq, Repr

def NamingFault.message (f : NamingFault) : String :=
  s!"Generated type name {Text.quoted f.typeName} is not a valid identifier"

def Naming.target (n : Naming) (s : Source) : Except NamingFault Target :=
  let typeName := n.typePrefix ++ s.name
  if Text.isIdentifier typeName then
    .ok
      { typeName
        fileName := typeName ++ n.fileSuffix
        sourceName := s.name
        sourceModule := s.module
        sourceQualname := s.qualname }
  else .error ⟨typeName⟩

end StructForge.Schema

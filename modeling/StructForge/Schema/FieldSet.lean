import StructForge.Log
import StructForge.Schema.Classify
import StructForge.Schema.Source

/-! # Classified fields

The fields of a source type, split into one list for each category and the dropped rest. Each list
keeps the declaration order. -/

namespace StructForge.Schema

structure Descriptor where
  name : String
  category : Category
  elementTypes : List String
  type : TypeRef
  deriving Repr

structure Dropped where
  name : String
  typeName : String
  reason : String
  deriving DecidableEq, Repr

/-- The classified fields of a source type. -/
structure FieldSet where
  source : Source
  sequences : List Descriptor
  mappings : List Descriptor
  vector3s : List Descriptor
  vector2s : List Descriptor
  scalars : List Descriptor
  dropped : List Dropped
  deriving Repr

namespace FieldSet

def bucket (s : FieldSet) : Category → List Descriptor
  | .sequence => s.sequences
  | .mapping => s.mappings
  | .vector3 => s.vector3s
  | .vector2 => s.vector2s
  | .scalar => s.scalars

def fields (s : FieldSet) : List Descriptor := Category.all.flatMap s.bucket

def isEmpty (s : FieldSet) : Bool := s.fields.isEmpty

end FieldSet

namespace Field

def describe (f : Field) (c : Category) : Descriptor :=
  ⟨f.name, c, elementNames c f.type.args, f.type⟩

def inCategory? (c : Category) (f : Field) : Option Descriptor :=
  if classify f.type = some c then some (f.describe c) else none

def dropped? (f : Field) : Option Dropped :=
  match classify f.type with
  | some _ => none
  | none => some ⟨f.name, f.type.display, (dropReason f.type).text⟩

end Field

namespace Source

def extract (s : Source) : FieldSet :=
  { source := s
    sequences := s.fields.filterMap (Field.inCategory? .sequence)
    mappings := s.fields.filterMap (Field.inCategory? .mapping)
    vector3s := s.fields.filterMap (Field.inCategory? .vector3)
    vector2s := s.fields.filterMap (Field.inCategory? .vector2)
    scalars := s.fields.filterMap (Field.inCategory? .scalar)
    dropped := s.fields.filterMap Field.dropped? }

def extractLog (s : Source) : List LogRecord :=
  s.fields.map fun f =>
    let message := match classify f.type with
      | some c => s!"{s.name}.{f.name} -> {c.name}"
      | none => s!"{s.name}.{f.name} matched no category: {(dropReason f.type).text}"
    ⟨.debug, loggerName "extractor", message⟩

end Source

end StructForge.Schema

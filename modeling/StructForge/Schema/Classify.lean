import StructForge.Schema.TypeRef

/-! # Classification of field types

A field belongs to one of five categories or is dropped. The categories are given by a table of
rules of which the first that matches decides; no type matches two of them. -/

namespace StructForge.Schema

/-- The category of a field, in the order in which a struct lists its fields. -/
inductive Category where
  | sequence
  | mapping
  | vector3
  | vector2
  | scalar
  deriving DecidableEq, Repr

namespace Category

def all : List Category := [.sequence, .mapping, .vector3, .vector2, .scalar]

def name : Category → String
  | .sequence => "sequence"
  | .mapping => "mapping"
  | .vector3 => "vector3"
  | .vector2 => "vector2"
  | .scalar => "scalar"

def ofName? (s : String) : Option Category := all.find? (·.name == s)

end Category

namespace TypeRef

/-- Whether the type can be the key of a mapping. An enum key is stored as its number, so its
members must be whole numbers. -/
def isKeyType (r : TypeRef) : Bool := r.isValueType && (!r.isEnum || r.intValued)

def isSequence (r : TypeRef) : Bool :=
  r.shape == .sequence &&
    match r.args with
    | [element] => element.isValueType
    | _ => false

def isMapping (r : TypeRef) : Bool :=
  r.shape == .mapping &&
    match r.args with
    | [key, value] => key.isKeyType && value.isValueType
    | _ => false

/-- A number, truth value or enum member. -/
def isScalar (r : TypeRef) : Bool := r.shape == .primitive || r.shape == .enum

end TypeRef

/-- One row of the table. -/
structure Rule where
  category : Category
  accepts : TypeRef → Bool

def rules : List Rule :=
  [⟨.sequence, TypeRef.isSequence⟩,
    ⟨.mapping, TypeRef.isMapping⟩,
    ⟨.vector3, fun r => r.shape == .vector3⟩,
    ⟨.vector2, fun r => r.shape == .vector2⟩,
    ⟨.scalar, TypeRef.isScalar⟩]

def classifyBy (table : List Rule) (r : TypeRef) : Option Category :=
  (table.find? (·.accepts r)).map (·.category)

/-- The category of a type, or none if fields of the type are dropped. -/
def classify (r : TypeRef) : Option Category := classifyBy rules r

def matchingCategories (r : TypeRef) : List Category :=
  (rules.filter (·.accepts r)).map (·.category)

def enumKeyName : String := "int"

/-- The element type names recorded for a field with the given type arguments: one for a sequence,
two for a mapping, none otherwise. -/
def elementNames : Category → List TypeRef → List String
  | .sequence, element :: _ => [element.name]
  | .mapping, [key, value] => [if key.isEnum then enumKeyName else key.name, value.name]
  | _, _ => []

/-- Why the type arguments do not fit a category. -/
inductive ArityFault where
  | noElement
  | notAPair (count : Nat)
  deriving DecidableEq, Repr

def ArityFault.message : ArityFault → String
  | .noElement => "tuple index out of range"
  | .notAPair count =>
    if count < 2 then s!"not enough values to unpack (expected 2, got {count})"
    else "too many values to unpack (expected 2)"

def checkArity : Category → List TypeRef → Except ArityFault Unit
  | .sequence, [] => .error .noElement
  | .mapping, args => if args.length = 2 then .ok () else .error (.notAPair args.length)
  | _, _ => .ok ()

/-- Why fields of a type are dropped. -/
inductive DropReason where
  | noElementType
  | elementNotValue (element : TypeRef)
  | noKeyAndValue
  | keyNotWhole (key : TypeRef)
  | notValues (rejected : List TypeRef)
  | unsupported (type : TypeRef)
  deriving Repr

def DropReason.text : DropReason → String
  | .noElementType => "list without an element type"
  | .elementNotValue element => s!"list element {element.display} is not a value type"
  | .noKeyAndValue => "dict without key and value types"
  | .keyNotWhole key => s!"dict key {key.display} has non-integer enum values"
  | .notValues rejected =>
    let shown := "/".intercalate (rejected.map TypeRef.display)
    s!"dict {shown} is not a value type"
  | .unsupported type => s!"unsupported type {type.display}"

/-- Why fields of a type are dropped, on the assumption that they are. -/
def dropReason (r : TypeRef) : DropReason :=
  match r.shape, r.args with
  | .sequence, [element] => .elementNotValue element
  | .sequence, _ => .noElementType
  | .mapping, [key, value] =>
    if key.isEnum && !key.intValued then .keyNotWhole key
    else .notValues ([key, value].filter (!·.isValueType))
  | .mapping, _ => .noKeyAndValue
  | _, _ => .unsupported r

end StructForge.Schema

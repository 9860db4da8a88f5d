/-! # Descriptions of declared types

A `TypeRef` says what a field was declared as: its name, where the type is found, its shape and, for
a list or dictionary, its arguments. -/

namespace StructForge.Schema

inductive Shape where
  | sequence
  | mapping
  | vector2
  | vector3
  | primitive
  | enum
  | other
  deriving DecidableEq, Repr

namespace Shape

def all : List Shape := [.sequence, .mapping, .vector2, .vector3, .primitive, .enum, .other]

def name : Shape → String
  | .sequence => "sequence"
  | .mapping => "mapping"
  | .vector2 => "vector2"
  | .vector3 => "vector3"
  | .primitive => "primitive"
  | .enum => "enum"
  | .other => "other"

def ofName? (s : String) : Option Shape := all.find? (·.name == s)

def isValue : Shape → Bool
  | .primitive | .enum | .vector2 | .vector3 => true
  | _ => false

end Shape

/-- The description of a declared type. `intValued` marks an enum whose members are all whole
numbers. -/
inductive TypeRef where
  | mk (name module qualname : String) (shape : Shape) (args : List TypeRef) (intValued : Bool)
  deriving Repr

instance : Inhabited TypeRef := ⟨.mk "" "" "" .other [] false⟩

namespace TypeRef

def name : TypeRef → String
  | mk name .. => name

def module : TypeRef → String
  | mk _ module .. => module

def qualname : TypeRef → String
  | mk _ _ qualname .. => qualname

def shape : TypeRef → Shape
  | mk _ _ _ shape .. => shape

def args : TypeRef → List TypeRef
  | mk _ _ _ _ args _ => args

def intValued : TypeRef → Bool
  | mk _ _ _ _ _ intValued => intValued

def leaf (name module qualname : String) (shape : Shape) : TypeRef :=
  mk name module qualname shape [] false

def isValueType (r : TypeRef) : Bool := r.shape.isValue

def isEnum (r : TypeRef) : Bool := r.shape == .enum

def isVector (r : TypeRef) : Bool := r.shape == .vector2 || r.shape == .vector3

mutual

/-- A readable form such as `dict[Faction, int]`. -/
def display : TypeRef → String
  | mk name _ _ _ args _ =>
    match args with
    | [] => name
    | arg :: rest =>
      let inner := ", ".intercalate (displayAll (arg :: rest))
      s!"{name}[{inner}]"

def displayAll : List TypeRef → List String
  | [] => []
  | r :: rest => r.display :: displayAll rest

end

end TypeRef

end StructForge.Schema

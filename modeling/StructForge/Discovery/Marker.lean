import StructForge.Live.Registry

/-! # Markers

A class is marked by an attribute of its own. A class that inherits from a marked one is not marked
by that. -/

namespace StructForge.Discovery

open Live

def markerName : String := "__nativegen_generate__"

def isMarked (r : Registry) (c : ClassRef) : Bool := (r.marker? c).any (·.isTrue)

def hasMarker (r : Registry) (v : Value) : Bool :=
  match v with
  | .hint (.cls c) => isMarked r c
  | _ => false

def sealedName? : ClassRef → Option String
  | .builtin name => some name
  | .number .bool => some "numpy.bool"
  | .number kind => some ("numpy." ++ kind.name)
  | .numeric name => some ("numpy." ++ name)
  | _ => none

/-- Marks a value, which must be a class whose attributes can be set. -/
def mark (r : Registry) (v : Value) : Except Fault Registry :=
  match v with
  | .hint (.cls c) =>
    match sealedName? c with
    | some name =>
      .error ⟨.badType, s!"cannot set '{markerName}' attribute of immutable type '{name}'"⟩
    | none => .ok (r.mark c (.bool true))
  | _ => .error ⟨.badType, "@generate_native_data can only decorate classes"⟩

def markedIn? (r : Registry) (module : String) (v : Value) : Option ClassRef :=
  match v with
  | .hint (.cls c) => if isMarked r c && c.label.module == module then some c else none
  | _ => none

/-- The marked classes that a module defines, attribute by attribute. -/
def markedClasses (r : Registry) (module : String) : List ClassRef :=
  match r.module? module with
  | some m => m.attributes.filterMap fun (_, v) => markedIn? r module v
  | none => []

end StructForge.Discovery

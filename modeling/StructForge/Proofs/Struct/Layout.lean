import StructForge.Proofs.Schema.Partition
import StructForge.Proofs.Struct.Lifetime
import StructForge.Proofs.Struct.TextReading

/-! # Layout of structs

A struct is laid out by its slots alone. What it lists as its slots, annotates, fills in the
constructor and in the default, and releases, are the same fields in the same order; and a container
is of the same types wherever they are given. -/

namespace StructForge.Schema

def Source.slotNames (s : Source) : List String :=
  (Category.all.flatMap fun c => s.share (some c)).map (·.name)

section Names

variable {s : Source}

end Names

end StructForge.Schema

namespace StructForge.Struct

open Live Container Schema

open Template in
def column (v : Template.Value) (list name : String) : Except Fault (List Template.Value) := do
  (← (← v.member list).items).mapM (·.member name)

section Columns

variable {m : StructModel}

end Columns

/-! ## Types of containers -/

section Types

variable {s : Scope} {content : Content} {part : Part} {types : List Value}

section Values

variable {element key value : String} {length : Except Fault Nat} {a : FixedArray} {m : GrowingMap Value}

end Values

end Types

section Meanings

variable {m : StructModel} {t : Target} {fields : List Descriptor} {i : Imports} {d : Descriptor}
  {content : Content} {e : String}

end Meanings

/-! ## One layout -/

/-- What a module says in its lines about slots of some names, of which some hold containers. -/
structure StructModel.Lists (m : StructModel) (names containers : List String) : Prop where
  annotations : (m.lines.filterMap annotated?).map (·.1) = names
  constructor : (m.lines.filterMap (assigned? "self")).map (·.1) = names
  default : (m.lines.filterMap (assigned? "mirror")).map (·.1) = names
  types : ∀ name ∈ containers, ∃ types,
    ((m.lines.filterMap annotated?).lookup name).bind declaredTypes? = some types ∧
    ((m.lines.filterMap (assigned? "self")).lookup name).bind (initialTypes? name) = some types ∧
    ((m.lines.filterMap (assigned? "mirror")).lookup name).bind defaultTypes? = some types

section Layout

variable {m : StructModel} {i : Imports} {fields : List Descriptor} {slots : List Slot}
  {s : Source} {t : Target}

theorem map_name_slots (h : List.Forall₂ (SlotOf i) fields slots) :
    slots.map (·.name) = fields.map (·.name) := by
  rw [← List.forall₂_eq_eq_eq, List.forall₂_map_left_iff, List.forall₂_map_right_iff]
  exact h.flip.imp fun _ _ hslot => hslot.name

section Made

variable {give : Slot → Except Fault (String × Part)} {entries : List (String × Part)}
  {scope : Scope} {source : String → Except Fault Held} {record : Record}
  (hnormal : ∀ slot ∈ m.slots, Text.normal slot.name = slot.name)
  (hread : (m.slots.map fun slot => m.read slot.name).Nodup)

include hread

include hnormal

end Made

end Layout

end StructForge.Struct

import StructForge.Proofs.Live.RetainedHint
import StructForge.Proofs.Struct.MappingConversion

/-! # Default structs

The default of a class gives every slot the zero of its field: containers without storage, vectors
and numbers that are zero, and of an enum a member. It is made whenever the names of the module
stand for what is meant by them, with one exception: an enum over which a walk meets no member. -/

namespace StructForge.Struct

open Live Container Schema

section Slots

variable {r : Registry} {h : Hint} {k : ClassRef} {m : StructModel} {s : Scope}
  {locals : List String} {i : Imports} {asked : List Reference} {d : Descriptor} {content : Content}

theorem ContentOf.eq_vector3 (hcontent : ContentOf i d content)
    (hcategory : d.category = .vector3) : content = .vector3 := by
  cases hcontent with
  | vector3 => rfl
  | _ hcategory' =>
    rw [hcategory] at hcategory'
    cases hcategory'

theorem ContentOf.eq_vector2 (hcontent : ContentOf i d content)
    (hcategory : d.category = .vector2) : content = .vector2 := by
  cases hcontent with
  | vector2 => rfl
  | _ hcategory' =>
    rw [hcategory] at hcategory'
    cases hcategory'

end Slots

theorem DeclaresField.unique {r : Registry} {c : ClassRef} {name : String} {h h' : Hint}
    (hfield : DeclaresField r c name h) (hfield' : DeclaresField r c name h') : h = h' := by
  obtain ⟨hints, hhints, hlookup, -⟩ := hfield
  obtain ⟨hints', hhints', hlookup', -⟩ := hfield'
  rw [hhints] at hhints'
  cases hhints'
  rw [hlookup] at hlookup'
  exact Option.some.inj hlookup'

namespace Pairing

variable {r : Registry} {n : Naming} {c : ClassRef} {p : Pairing} {slot : Slot}

end Pairing

end StructForge.Struct

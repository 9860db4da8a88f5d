import StructForge.Proofs.Live.Description
import StructForge.Proofs.Struct.BuildFailure
import StructForge.Struct.Emit

/-! # When the model of a described class fails

The fields of a class that can be described lack no zero, so that its model fails by its names only:
a reserved name of a field, or a type that generated code cannot reach. As long as the first name of
a type tells its module, no import needs an alias, and these are the only ways to fail. -/

namespace StructForge.Struct

open Live Schema

/-! ## Reachable types -/

def HeadsTellModules (refs : List Reference) : Prop :=
  ∀ x ∈ refs, ∀ y ∈ refs, x.IsImported → y.IsImported →
    (splitHead x.2).1 = (splitHead y.2).1 → x.1 = y.1

instance (refs : List Reference) : Decidable (HeadsTellModules refs) :=
  inferInstanceAs (Decidable (∀ x ∈ refs, ∀ y ∈ refs, x.IsImported → y.IsImported →
    (splitHead x.2).1 = (splitHead y.2).1 → x.1 = y.1))

namespace Imports

variable {refs : List Reference} {i j : Imports} {x : Reference}

/-- Imports of the first names of some types, without an alias. -/
def IsPlain (refs : List Reference) (i : Imports) : Prop :=
  ∀ b ∈ i.bindings, b.localName = b.name ∧
    ∃ x ∈ refs, x.IsImported ∧ b.module = x.1 ∧ b.name = (splitHead x.2).1

theorem IsPlain.bind (h : i.IsPlain refs) (hrefs : HeadsTellModules refs) (hx : x ∈ refs)
    (himported : x.IsImported) :
    ∃ localName j, i.bind x.1 (splitHead x.2).1 = .ok (localName, j) ∧ j.IsPlain refs := by
  unfold Imports.bind
  cases hfind : i.find? x.1 (splitHead x.2).1 with
  | some b => exact ⟨b.localName, i, rfl, h⟩
  | none =>
    have hfree : i.isBound (splitHead x.2).1 = false := by
      rw [← Bool.not_eq_true, isBound_iff]
      rintro ⟨b, hb, hlocal⟩
      obtain ⟨hsame, y, hy, hyimported, hmodule, hname⟩ := h b hb
      have hhead : (splitHead y.2).1 = (splitHead x.2).1 := by rw [← hname, ← hsame, hlocal]
      have hbound := List.find?_eq_none.mp hfind b hb
      rw [hmodule, hrefs y hy x hx hyimported himported hhead, ← hlocal, hsame] at hbound
      simp at hbound
    simp only [hfree, Bool.false_eq_true, if_false]
    refine ⟨_, _, rfl, fun b hb => ?_⟩
    rcases List.mem_append.mp hb with hb | hb
    · exact h b hb
    · obtain rfl := List.mem_singleton.mp hb
      exact ⟨rfl, x, hx, himported, rfl, rfl⟩

end Imports

/-! ## Steps that are decided by a condition -/

namespace Build

variable {α β : Type} {refs : List Reference} {bad bad' : Prop} {r : TypeRef} {d : Descriptor}
  {sourceName : String}

/-- Whether a step fails exactly under a condition, whatever plain imports it begins with. -/
def FailsIff (refs : List Reference) (bad : Prop) (x : Build α) : Prop :=
  ∀ i, i.IsPlain refs →
    (¬bad ∧ ∃ a j, x i = .ok (a, j) ∧ j.IsPlain refs) ∨ (bad ∧ ∃ f, x i = .error f)

theorem FailsIff.congr {x : Build α} (h : FailsIff refs bad x) (hbad : bad ↔ bad') :
    FailsIff refs bad' x := propext hbad ▸ h

theorem FailsIff.bind {x : Build α} {g : α → Build β} (hx : FailsIff refs bad x)
    (hg : ∀ a, FailsIff refs bad' (g a)) : FailsIff refs (bad ∨ bad') (x >>= g) := by
  intro i hi
  rcases hx i hi with ⟨hgood, a, j, ha, hj⟩ | ⟨hbad, f, hf⟩
  · rcases hg a j hj with ⟨hgood', b, k, hb, hk⟩ | ⟨hbad', f, hf⟩
    · exact .inl ⟨not_or_intro hgood hgood', b, k, bind_ok.mpr ⟨a, j, ha, hb⟩, hk⟩
    · exact .inr ⟨.inr hbad', f, bind_error.mpr (.inr ⟨a, j, ha, hf⟩)⟩
  · exact .inr ⟨.inl hbad, f, bind_error.mpr (.inl hf)⟩

end Build

section Described

variable {r : Registry} {c : ClassRef} {source : Source}

end Described

end StructForge.Struct

import StructForge.Container.Key
import StructForge.Proofs.Live.KeyEquality

/-! # Laws of keys

A table can tell its keys apart when being found is symmetric and transitive among them. So it is
for values, and for values with an identity, which are found again also where they equal nothing. -/

namespace StructForge.Container

open Live

/-- Objects with a hash among which being found is symmetric and transitive. -/
structure AreKeys {κ : Type} [Key κ] (P : κ → Prop) : Prop where
  hashable : ∀ k, P k → Key.unhashable? k = none
  symm : ∀ a b, P a → P b → Key.isFor a b = true → Key.isFor b a = true
  trans : ∀ a b c, P a → P b → P c → Key.isFor a b = true → Key.isFor b c = true →
    Key.isFor a c = true

structure Object where
  identity : Nat
  value : Value

instance : Key Object where
  isFor a b := a.identity == b.identity || a.value.equals b.value
  unhashable? a := a.value.unhashable?
  shown a := a.value.shown

namespace Object

def IsKey (values : Nat → Value) (a : Object) : Prop := a.value = values a.identity ∧ a.value.IsKey

theorem isFor_iff {a b : Object} :
    Key.isFor a b = true ↔ a.identity = b.identity ∨ a.value.equals b.value = true := by
  change (a.identity == b.identity || a.value.equals b.value) = true ↔ _
  rw [Bool.or_eq_true, beq_iff_eq]

theorem isFor_nan (i j : Nat) :
    Key.isFor (⟨i, .float .nan⟩ : Object) ⟨j, .float .nan⟩ = true ↔ i = j := by
  rw [isFor_iff]
  exact or_iff_left (show ¬(Value.float .nan).equals (.float .nan) = true by decide)

end Object

end StructForge.Container

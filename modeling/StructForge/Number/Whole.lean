import StructForge.Fault
import StructForge.Number.Literal

/-! # Decimal text of whole numbers

A whole number is written out unless it has more digits than are read as one. -/

namespace StructForge.Number

def wholeText (i : Int) : Except Fault String :=
  if Nat.pow 10 maxDigits ≤ i.natAbs then
    .error ⟨.badValue, s!"Exceeds the limit ({maxDigits} digits) for integer string conversion; " ++
      "use sys.set_int_max_str_digits() to increase the limit"⟩
  else .ok (toString i)

theorem wholeText_of_long {i : Int} (h : Nat.pow 10 maxDigits ≤ i.natAbs) :
    ∃ f, wholeText i = .error f ∧ f.kind = .badValue := by
  rw [wholeText, if_pos h]
  exact ⟨_, rfl, rfl⟩

theorem wholeText_of_short {i : Int} (h : ¬Nat.pow 10 maxDigits ≤ i.natAbs) :
    wholeText i = .ok (toString i) := by
  rw [wholeText, if_neg h]

end StructForge.Number

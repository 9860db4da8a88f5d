import Mathlib.Algebra.Order.Field.Rat
import Mathlib.Algebra.Order.Ring.Abs
import Mathlib.Algebra.Order.Ring.Pow
import Mathlib.Tactic.Linarith
import StructForge.Number.Binary

/-! # Quantities

The number that a binary floating-point value stands for: a rational one, or an infinite one.
Values with an odd significand are equal exactly when they stand for one number. -/

namespace StructForge.Number

/-- A rational number, or an infinite one of either sign. -/
inductive Quantity where
  | ratio (q : ℚ)
  | infinite (negative : Bool)
  deriving DecidableEq

def Quantity.IsNonNegative : Quantity → Prop
  | .ratio q => 0 ≤ q
  | .infinite negative => negative = false

namespace Binary

/-- Whether a significand has no factor of two that the exponent could take. -/
def IsReduced : Binary → Prop
  | .finite _ s e => s % 2 = 1 ∨ s = 0 ∧ e = 0
  | _ => True

/-- The rational number `± significand * 2 ^ exponent`. -/
def ratio (negative : Bool) (s : Nat) (e : Int) : ℚ := (if negative then -1 else 1) * (s * 2 ^ e)

/-- The number that a value stands for; not a number stands for none. -/
def quantity? : Binary → Option Quantity
  | .nan => none
  | .infinite negative => some (.infinite negative)
  | .finite negative s e => some (.ratio (ratio negative s e))

variable {n n' : Bool} {s s' : Nat} {e e' i : Int} {x y : Binary}

theorem eq_zero_of_odd_mul_pow {k : Nat} (hs : s % 2 = 1) (h : s = s' * 2 ^ k) : k = 0 := by
  cases k with
  | zero => rfl
  | succ k =>
    rw [Nat.pow_succ, ← Nat.mul_assoc] at h
    omega

theorem odd_mul_zpow_inj (hs : s % 2 = 1) (hs' : s' % 2 = 1)
    (h : (s : ℚ) * 2 ^ e = s' * 2 ^ e') : s = s' ∧ e = e' := by
  wlog hle : e ≤ e' generalizing s s' e e'
  · obtain ⟨hsig, hexp⟩ := this hs' hs h.symm (by omega)
    exact ⟨hsig.symm, hexp.symm⟩
  obtain ⟨k, rfl⟩ := Int.le.dest hle
  have htwo : (2 : ℚ) ≠ 0 := two_ne_zero
  rw [zpow_add₀ htwo, zpow_natCast, mul_comm ((2 : ℚ) ^ e), ← mul_assoc] at h
  have hsig : s = s' * 2 ^ k := by exact_mod_cast mul_right_cancel₀ (zpow_ne_zero e htwo) h
  obtain rfl := eq_zero_of_odd_mul_pow hs hsig
  exact ⟨by simpa using hsig, by simp⟩

theorem ratio_eq_zero : ratio n s e = 0 ↔ s = 0 := by
  have hpow : (2 : ℚ) ^ e ≠ 0 := zpow_ne_zero e two_ne_zero
  cases n <;> simp [ratio, hpow]

/-- Two odd significands make one number only with one sign and one exponent. -/
theorem ratio_inj (hs : s % 2 = 1) (hs' : s' % 2 = 1) :
    ratio n s e = ratio n' s' e' ↔ n = n' ∧ s = s' ∧ e = e' := by
  constructor
  · intro h
    have hpos : (0 : ℚ) < s * 2 ^ e :=
      mul_pos (by exact_mod_cast (by omega : 0 < s)) (zpow_pos two_pos e)
    have hpos' : (0 : ℚ) < s' * 2 ^ e' :=
      mul_pos (by exact_mod_cast (by omega : 0 < s')) (zpow_pos two_pos e')
    unfold ratio at h
    have hsign : n = n' ∧ (s : ℚ) * 2 ^ e = s' * 2 ^ e' := by
      cases n <;> cases n' <;> simp only [Bool.false_eq_true, if_true, if_false, one_mul, neg_mul,
        neg_inj] at h
      · exact ⟨rfl, h⟩
      · linarith
      · linarith
      · exact ⟨rfl, h⟩
    exact ⟨hsign.1, odd_mul_zpow_inj hs hs' hsign.2⟩
  · rintro ⟨rfl, rfl, rfl⟩
    rfl

theorem natAbs_of_ratio_eq {k : Nat} (h : ratio n s (-(k : Int)) = i) :
    s = i.natAbs * 2 ^ k := by
  have hpow : (0 : ℚ) < 2 ^ k := pow_pos two_pos k
  have habs : (s : ℚ) * (2 ^ k)⁻¹ = i.natAbs := by
    rw [Nat.cast_natAbs, Int.cast_abs, ← h]
    cases n <;> simp [ratio, abs_mul, abs_of_pos (inv_pos.mpr hpow)]
  rw [← div_eq_mul_inv, div_eq_iff hpow.ne'] at habs
  exact_mod_cast habs

theorem equals_iff (hx : x.IsReduced) (hy : y.IsReduced) :
    x.equals y = true ↔ ∃ q, x.quantity? = some q ∧ y.quantity? = some q := by
  cases x with
  | nan => simp [equals, quantity?]
  | infinite n =>
    cases y with
    | infinite n' => cases n <;> cases n' <;> simp [equals, quantity?]
    | nan | finite => simp [equals, quantity?]
  | finite n s e =>
    cases y with
    | nan => simp [equals, quantity?]
    | infinite => simp [equals, quantity?]
    | finite n' s' e' =>
      have hratio : (Binary.finite n s e).equals (.finite n' s' e') = true ↔
          ratio n s e = ratio n' s' e' := by
        rcases hx with hs | ⟨rfl, rfl⟩ <;> rcases hy with hs' | ⟨rfl, rfl⟩
        · have hne : s ≠ 0 := by omega
          simp [equals, ratio_inj hs hs', hne, and_assoc]
        · have hne : s ≠ 0 := by omega
          have hzero : ratio n' 0 0 = 0 := ratio_eq_zero.mpr rfl
          simp [equals, hzero, ratio_eq_zero, hne]
        · have hne : s' ≠ 0 := by omega
          have hzero : ratio n 0 0 = 0 := ratio_eq_zero.mpr rfl
          rw [hzero, eq_comm (a := (0 : ℚ)), ratio_eq_zero]
          simp [equals, hne, hne.symm]
        · rw [ratio_eq_zero.mpr rfl, ratio_eq_zero.mpr rfl]
          simp [equals]
      rw [hratio]
      constructor
      · intro h
        exact ⟨_, rfl, by rw [h]; rfl⟩
      · rintro ⟨q, hq, hq'⟩
        cases hq
        rw [quantity?, Option.some.injEq, Quantity.ratio.injEq] at hq'
        exact hq'.symm

/-- A value is a whole number exactly when it stands for that number. -/
theorem toInt?_eq_some (hx : x.IsReduced) :
    x.toInt? = some i ↔ x.quantity? = some (.ratio i) := by
  cases x with
  | nan => simp [toInt?, quantity?]
  | infinite => simp [toInt?, quantity?]
  | finite n s e =>
    simp only [toInt?, quantity?, Option.some.injEq, Quantity.ratio.injEq]
    by_cases he : 0 ≤ e
    · obtain ⟨k, rfl⟩ := Int.eq_ofNat_of_zero_le he
      have hcast : (((if n then -((s * twoTo k : Nat) : Int) else (s * twoTo k : Nat)) : Int) : ℚ) =
          ratio n s k := by
        have htwo : twoTo k = 2 ^ k := rfl
        rw [htwo]
        cases n <;> simp [ratio]
      rw [if_pos he, Option.some.injEq, ← hcast, Int.cast_inj]
    · rw [if_neg he]
      rcases hx with hs | ⟨rfl, rfl⟩
      · have hne : s ≠ 0 := by omega
        rw [if_neg hne]
        refine iff_of_false (by simp) fun h => ?_
        obtain ⟨k, hk⟩ := Int.eq_ofNat_of_zero_le (by omega : 0 ≤ -e)
        obtain rfl : e = -(k : Int) := by omega
        have hsig : s = i.natAbs * 2 ^ k := natAbs_of_ratio_eq h
        have hzero := eq_zero_of_odd_mul_pow hs hsig
        omega
      · exact absurd (le_refl 0) he

theorem ltInt_zero {q : Quantity} (hq : x.quantity? = some q) (h : q.IsNonNegative) :
    x.ltInt 0 = false := by
  cases x with
  | nan => rfl
  | infinite n =>
    cases hq
    exact h
  | finite n s e =>
    cases hq
    cases n with
    | false =>
      have hpow : ¬(s : Int) * twoTo e < 0 := not_lt.mpr (by positivity)
      have hsig : ¬(s : Int) < 0 := not_lt.mpr (by positivity)
      simp [ltInt, hpow, hsig]
    | true =>
      have hpos : (0 : ℚ) < 2 ^ e := zpow_pos two_pos e
      have hneg : (s : ℚ) * 2 ^ e ≤ 0 := by simpa [Quantity.IsNonNegative, ratio] using h
      have hzero : (s : ℚ) ≤ 0 := by
        by_contra hs
        exact absurd hneg (not_le.mpr (mul_pos (not_le.mp hs) hpos))
      obtain rfl : s = 0 := by exact_mod_cast le_antisymm hzero (by positivity)
      simp [ltInt]

end Binary

end StructForge.Number

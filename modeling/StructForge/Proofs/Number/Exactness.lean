import Mathlib.Tactic.Ring
import StructForge.Number.Cast

/-! # Numbers that need no rounding

A format holds the values whose significand and exponent fit it. Rounding leaves such a value as it
is, and so does a cast of a number to its own kind. -/

namespace StructForge.Number

theorem reduce_mul_pow {s : Nat} (hs : s % 2 = 1) {k fuel : Nat} (hk : k ≤ fuel) (e : Int) :
    reduce fuel (s * 2 ^ k) e = (s, e + k) := by
  induction k generalizing fuel e with
  | zero =>
    rw [Nat.pow_zero, Nat.mul_one]
    cases fuel with
    | zero => simp [reduce]
    | succ fuel =>
      rw [reduce, if_neg (by omega)]
      simp
  | succ k ih =>
    cases fuel with
    | zero => omega
    | succ fuel =>
      have heven : s * 2 ^ (k + 1) = 2 * (s * 2 ^ k) := by ring
      have hhalf : s * 2 ^ (k + 1) / 2 = s * 2 ^ k := by omega
      rw [reduce, if_pos (by omega), hhalf, ih (by omega)]
      congr 1
      push_cast
      ring

theorem log2_mul_pow {s : Nat} (hs : s ≠ 0) (k : Nat) : (s * 2 ^ k).log2 = s.log2 + k := by
  induction k with
  | zero => simp
  | succ k ih =>
    have hdouble : s * 2 ^ (k + 1) = 2 * (s * 2 ^ k) := by ring
    have hne : s * 2 ^ k ≠ 0 := Nat.mul_ne_zero hs (Nat.two_pow_pos k).ne'
    rw [hdouble, Nat.log2_two_mul hne, ih]
    omega

theorem roundHalfEven_mul (n : Nat) {den : Nat} (hden : 0 < den) :
    roundHalfEven (n * den) den = n := by
  unfold roundHalfEven
  simp [Nat.mul_div_cancel n hden, hden]

theorem twoTo_natCast (k : Nat) : twoTo k = 2 ^ k := rfl

theorem floorLog2_pow {num : Nat} (hnum : num ≠ 0) (k : Nat) :
    Format.floorLog2 num (2 ^ k) = num.log2 - k := by
  have hlow := Nat.log2_self_le hnum
  unfold Format.floorLog2
  simp only [Nat.log2_two_pow]
  have habove : (if (0 : Int) ≤ (num.log2 : Int) - k then
      decide (2 ^ k * twoTo ((num.log2 : Int) - k) ≤ num)
      else decide (2 ^ k ≤ num * twoTo (-((num.log2 : Int) - k)))) = true := by
    split
    · rename_i hk
      have hexp : ((num.log2 : Int) - k).toNat = num.log2 - k := by omega
      have hpow : 2 ^ k * 2 ^ (num.log2 - k) = 2 ^ num.log2 := by
        rw [← Nat.pow_add]
        congr 1
        omega
      rw [decide_eq_true_eq]
      change 2 ^ k * 2 ^ ((num.log2 : Int) - k).toNat ≤ num
      rw [hexp, hpow]
      exact hlow
    · rename_i hk
      have hexp : (-((num.log2 : Int) - k)).toNat = k - num.log2 := by omega
      have hpow : 2 ^ num.log2 * 2 ^ (k - num.log2) = 2 ^ k := by
        rw [← Nat.pow_add]
        congr 1
        omega
      rw [decide_eq_true_eq]
      change 2 ^ k ≤ num * 2 ^ (-((num.log2 : Int) - k)).toNat
      rw [hexp, ← hpow]
      exact Nat.mul_le_mul_right _ hlow
  rw [habove, if_pos rfl]

namespace Format

variable {f : Format} {n : Bool} {s : Nat} {e : Int}

/-- Whether a format holds a value: its significand has few enough bits, and its last and its
leading bit are in range. -/
def Holds (f : Format) : Binary → Prop
  | .finite _ s e =>
    s = 0 ∧ e = 0 ∨
      s % 2 = 1 ∧ s < 2 ^ f.precision ∧ f.minQuantum ≤ e ∧ Binary.leading s e ≤ f.maxExponent
  | _ => True

instance (f : Format) (x : Binary) : Decidable (f.Holds x) := by
  cases x <;> unfold Holds <;> infer_instance

/-- The last bit that is kept of a value in a format is at or below the value's own last bit. -/
theorem quantum_le (hs : s ≠ 0) (hprecision : s < 2 ^ f.precision) (he : f.minQuantum ≤ e) :
    f.quantum (Binary.leading s e) ≤ e := by
  have hlog := (Nat.log2_lt hs).mpr hprecision
  unfold quantum Binary.leading
  omega

/-- A fraction with few enough bits is given exactly. -/
theorem ofRatio_exact {num den : Nat} (hs : s % 2 = 1) (hprecision : s < 2 ^ f.precision)
    (he : f.minQuantum ≤ e) (hmax : Binary.leading s e ≤ f.maxExponent) (hnum : num ≠ 0)
    (hlog : floorLog2 num den = Binary.leading s e)
    (hquotient : ∀ q : Int, q ≤ e →
      (if 0 ≤ q then roundHalfEven num (den * twoTo q) else roundHalfEven (num * twoTo (-q)) den) =
        s * 2 ^ (e - q).toNat) :
    f.ofRatio n num den = .finite n s e := by
  have hne : s ≠ 0 := by omega
  have hq := quantum_le hne hprecision he
  unfold ofRatio
  rw [if_neg hnum, hlog]
  simp only
  rw [hquotient _ hq]
  generalize f.quantum (Binary.leading s e) = q at hq
  have hlead : Binary.leading (s * 2 ^ (e - q).toNat) q = Binary.leading s e := by
    unfold Binary.leading
    rw [log2_mul_pow hne]
    omega
  have hm : s * 2 ^ (e - q).toNat ≠ 0 := Nat.mul_ne_zero hne (Nat.two_pow_pos _).ne'
  rw [hlead, if_neg (by omega)]
  unfold Binary.ofScaled
  rw [if_neg hm, reduce_mul_pow hs (by rw [log2_mul_pow hne]; omega)]
  simp only
  congr 1
  omega

/-- A whole number is divided by a power of two at or below its factor without a remainder. -/
theorem roundHalfEven_whole (s k : Nat) {q : Int} (hq : q ≤ k) :
    (if 0 ≤ q then roundHalfEven (s * 2 ^ k) (1 * twoTo q)
      else roundHalfEven (s * 2 ^ k * twoTo (-q)) 1) = s * 2 ^ ((k : Int) - q).toNat := by
  split
  · rename_i hq'
    obtain ⟨j, rfl⟩ := Int.eq_ofNat_of_zero_le hq'
    have hexp : ((k : Int) - j).toNat = k - j := by omega
    have hpow : 2 ^ k = 2 ^ (k - j) * 2 ^ j := by
      rw [← Nat.pow_add]
      congr 1
      omega
    rw [twoTo_natCast, Nat.one_mul, hexp, hpow, ← Nat.mul_assoc]
    exact roundHalfEven_mul _ (Nat.two_pow_pos _)
  · rename_i hq'
    have hexp : ((k : Int) - q).toNat = k + (-q).toNat := by omega
    have hone := roundHalfEven_mul (s * 2 ^ k * twoTo (-q)) Nat.one_pos
    rw [Nat.mul_one] at hone
    rw [hone, hexp, Nat.pow_add, ← Nat.mul_assoc]
    rfl

theorem roundHalfEven_fraction (s : Nat) {e q : Int} (he : e < 0) (hq : q ≤ e) :
    roundHalfEven (s * twoTo (-q)) (2 ^ (-e).toNat) = s * 2 ^ (e - q).toNat := by
  have hpow : twoTo (-q) = 2 ^ (e - q).toNat * 2 ^ (-e).toNat := by
    rw [← Nat.pow_add]
    change 2 ^ (-q).toNat = _
    congr 1
    omega
  rw [hpow, ← Nat.mul_assoc]
  exact roundHalfEven_mul _ (Nat.two_pow_pos _)

theorem round_eq_self {x : Binary} (h : f.Holds x) : f.round x = x := by
  cases x with
  | nan => rfl
  | infinite => rfl
  | finite n s e =>
    rcases h with ⟨rfl, rfl⟩ | ⟨hs, hprecision, he, hmax⟩
    · simp [round, ofRatio]
    have hne : s ≠ 0 := by omega
    simp only [round]
    split
    · rename_i hnonneg
      obtain ⟨k, rfl⟩ := Int.eq_ofNat_of_zero_le hnonneg
      have hnum : s * 2 ^ k ≠ 0 := Nat.mul_ne_zero hne (Nat.two_pow_pos k).ne'
      rw [twoTo_natCast]
      apply ofRatio_exact hs hprecision he hmax hnum
      · have hlog := floorLog2_pow hnum 0
        rw [Nat.pow_zero] at hlog
        rw [hlog, log2_mul_pow hne]
        unfold Binary.leading
        push_cast
        ring
      · intro q hq
        exact roundHalfEven_whole s k hq
    · rename_i hneg
      have hden : twoTo (-e) = 2 ^ (-e).toNat := rfl
      rw [hden]
      apply ofRatio_exact hs hprecision he hmax hne
      · rw [floorLog2_pow hne]
        unfold Binary.leading
        omega
      · intro q hq
        rw [if_neg (by omega)]
        exact roundHalfEven_fraction s (by omega) hq

end Format

def Kind.HoldsInt (k : Kind) (i : Int) : Prop :=
  match k.range? with
  | some (low, count) => low ≤ i ∧ i < low + count
  | none => False

instance (k : Kind) (i : Int) : Decidable (k.HoldsInt i) := by
  unfold Kind.HoldsInt
  split <;> infer_instance

def Kind.Holds (k : Kind) : Scalar → Prop
  | .bool _ => k = .bool
  | .int i => k.HoldsInt i
  | .float x => ∃ f, k.format? = some f ∧ f.Holds x

/-- Cutting a whole number to a width that it has leaves it as it is. -/
theorem Kind.wrap_eq_self {k : Kind} {i : Int} (h : k.HoldsInt i) : k.wrap i = i := by
  unfold HoldsInt at h
  unfold wrap
  split
  · rename_i low count hrange
    rw [hrange] at h
    rw [Int.emod_eq_of_lt (by omega) (by omega)]
    omega
  · rfl

theorem Scalar.cast_eq_self {k : Kind} {x : Scalar} (h : k.Holds x) : x.cast k = x := by
  cases x with
  | bool b =>
    obtain rfl : k = .bool := h
    rfl
  | int i =>
    have hwrap := Kind.wrap_eq_self h
    unfold Kind.Holds Kind.HoldsInt at h
    cases k <;> first | exact absurd h id | exact congrArg Scalar.int hwrap
  | float x =>
    obtain ⟨f, hf, hx⟩ := h
    unfold Scalar.cast
    rw [hf]
    simp only [Format.round_eq_self hx]

end StructForge.Number

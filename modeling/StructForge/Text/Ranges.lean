/-! # Sets of code points

A property of characters is kept as the increasing list of its ranges. -/

namespace StructForge.Text

/-- Inclusive ranges of code points, in increasing order. -/
abbrev Ranges := List (Nat × Nat)

namespace Ranges

/-- Whether a code point lies in one of the ranges. The search ends at the first range that starts
above it. -/
def has : Ranges → Nat → Bool
  | [], _ => false
  | (first, last) :: rest, c => first ≤ c && (c ≤ last || has rest c)

/-- The distance of a code point from the start of the range that holds it. -/
def offset? : Ranges → Nat → Option Nat
  | [], _ => none
  | (first, last) :: rest, c =>
    if c < first then none else if c ≤ last then some (c - first) else offset? rest c

theorem has_cons {r : Nat × Nat} {rs : Ranges} {c : Nat} :
    has (r :: rs) c = true ↔ r.1 ≤ c ∧ (c ≤ r.2 ∨ has rs c = true) := by
  simp [has]

def isInside (r s : Nat × Nat) : Bool := s.1 ≤ r.1 && r.2 ≤ s.2

def increasing : Ranges → Bool
  | r :: s :: rest => r.1 ≤ s.1 && increasing (s :: rest)
  | _ => true

/-- Whether every range of the second set lies in a range of the first; both are walked once. -/
def covers : Ranges → Ranges → Bool
  | [], inner => inner.isEmpty
  | r :: rest, inner => covers rest (inner.dropWhile (isInside · r))

theorem exists_mem_of_has {rs : Ranges} {c : Nat} (h : rs.has c = true) :
    ∃ r ∈ rs, r.1 ≤ c ∧ c ≤ r.2 := by
  induction rs with
  | nil => cases h
  | cons r rest ih =>
    obtain ⟨hfirst, hlast | hrest⟩ := has_cons.mp h
    · exact ⟨r, List.mem_cons_self, hfirst, hlast⟩
    · obtain ⟨s, hs, hc⟩ := ih hrest
      exact ⟨s, List.mem_cons_of_mem _ hs, hc⟩

theorem has_of_mem {rs : Ranges} (hsorted : rs.increasing = true) {r : Nat × Nat} (hr : r ∈ rs)
    {c : Nat} (hfirst : r.1 ≤ c) (hlast : c ≤ r.2) : rs.has c = true := by
  induction rs with
  | nil => cases hr
  | cons s rest ih =>
    rw [has_cons]
    rcases List.mem_cons.mp hr with rfl | hr
    · exact ⟨hfirst, .inl hlast⟩
    · cases rest with
      | nil => cases hr
      | cons s' rest =>
        simp only [increasing, Bool.and_eq_true, decide_eq_true_eq] at hsorted
        have hrest := ih hsorted.2 hr
        exact ⟨Nat.le_trans hsorted.1 (has_cons.mp hrest).1, .inr hrest⟩

theorem exists_isInside_of_covers {outer inner : Ranges} (h : outer.covers inner = true)
    {r : Nat × Nat} (hr : r ∈ inner) : ∃ s ∈ outer, isInside r s = true := by
  induction outer generalizing inner with
  | nil =>
    rw [covers, List.isEmpty_iff] at h
    rw [h] at hr
    cases hr
  | cons s rest ih =>
    rw [← List.takeWhile_append_dropWhile (p := (isInside · s)) (l := inner)] at hr
    rcases List.mem_append.mp hr with hr | hr
    · exact ⟨s, List.mem_cons_self, List.all_eq_true.mp List.all_takeWhile r hr⟩
    · obtain ⟨s', hs', hinside⟩ := ih h hr
      exact ⟨s', List.mem_cons_of_mem _ hs', hinside⟩

theorem has_of_covers {outer inner : Ranges} (hsorted : outer.increasing = true)
    (h : outer.covers inner = true) {c : Nat} (hc : inner.has c = true) : outer.has c = true := by
  obtain ⟨r, hr, hfirst, hlast⟩ := exists_mem_of_has hc
  obtain ⟨s, hs, hinside⟩ := exists_isInside_of_covers h hr
  simp only [isInside, Bool.and_eq_true, decide_eq_true_eq] at hinside
  exact has_of_mem hsorted hs (Nat.le_trans hinside.1 hfirst) (Nat.le_trans hlast hinside.2)

end Ranges

end StructForge.Text

import StructForge.Text.Normal

/-! # Names in the body of a class

Names are read in their normal form. In the body of a class a private name, which begins with two
underscores and does not end with two, is read with the name of the class before it. -/

namespace StructForge.Text

def isPrivate (name : String) : Bool :=
  let underscores := "__".toList
  underscores.isPrefixOf name.toList && !underscores.isSuffixOf name.toList &&
    !name.toList.contains '.'

/-- A name in normal form as the body of a class has it. The class gives its name without the
underscores before it; a class of underscores alone gives none. -/
def ownedBy (owner name : String) : String :=
  match owner.toList.dropWhile (· = '_') with
  | [] => name
  | short => if isPrivate name then String.ofList ('_' :: short) ++ name else name

/-- A name that is written in the body of a class, as it is read there. -/
def readIn (owner name : String) : String := ownedBy owner (normal name)

/-- Whether a name is read as it is written, in every class and outside. -/
def isPlain (name : String) : Bool := normal name == name && !isPrivate name

theorem ownedBy_of_not_isPrivate {name : String} (h : isPrivate name = false) (owner : String) :
    ownedBy owner name = name := by
  unfold ownedBy
  split
  · rfl
  · rw [h, if_neg Bool.false_ne_true]

theorem isPrivate_underscore {cs : List Char} {name : String} (hcs : cs.head? ≠ some '_')
    (hne : cs ≠ []) : isPrivate (String.ofList ('_' :: cs) ++ name) = false := by
  cases cs with
  | nil => exact absurd rfl hne
  | cons c cs =>
    have hc : '_' ≠ c := by
      rintro rfl
      exact hcs rfl
    simp [isPrivate, hc]

/-- A name that is read as written in a class is a name of the class as written. -/
theorem ownedBy_of_readIn {owner name : String} (h : readIn owner name = name) :
    ownedBy owner name = name := by
  unfold readIn ownedBy at h
  unfold ownedBy
  cases hshort : owner.toList.dropWhile (· = '_') with
  | nil => rfl
  | cons c cs =>
    simp only [hshort] at h ⊢
    split at h
    · have hfirst : (c :: cs).head? ≠ some '_' := by
        rw [← hshort]
        intro hhead
        have := List.head?_dropWhile_not (fun x => decide (x = '_')) owner.toList
        rw [hhead] at this
        simp at this
      rw [← h, isPrivate_underscore hfirst (by simp), if_neg Bool.false_ne_true]
    · rename_i hprivate
      rw [h] at hprivate
      rw [if_neg hprivate]

section Plain

variable {name : String} (h : isPlain name = true)

include h

theorem normal_of_isPlain : normal name = name :=
  eq_of_beq (Bool.and_eq_true_iff.mp h).1

theorem isPrivate_of_isPlain : isPrivate name = false := by
  simpa using (Bool.and_eq_true_iff.mp h).2

theorem ownedBy_of_isPlain (owner : String) : ownedBy owner name = name :=
  ownedBy_of_not_isPrivate (isPrivate_of_isPlain h) owner

theorem readIn_of_isPlain (owner : String) : readIn owner name = name := by
  rw [readIn, normal_of_isPlain h, ownedBy_of_isPlain h]

end Plain

end StructForge.Text

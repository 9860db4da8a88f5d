import Mathlib.Data.List.TakeDrop
import StructForge.Proofs.Schema.Partition

/-! # Why types are dropped

A type is dropped because the rule for its shape fails, and the reason that is given says at which
part. The reason can be found for every type, and each of its six wordings stands exactly where what
it says is true of the dropped type. -/

namespace StructForge.Schema

/-! ## Finding a reason -/

def TypeRef.argument (r : TypeRef) (i : Nat) : Except ArityFault TypeRef :=
  match r.args[i]? with
  | some argument => .ok argument
  | none => .error .noElement

/-- The reason for a drop found step by step: the shape first, then the number of arguments, then
the arguments, each of which is looked up by its place. -/
def findReason (r : TypeRef) : Except ArityFault DropReason :=
  if r.shape = .sequence then
    if r.args.length ≠ 1 then .ok .noElementType
    else do return .elementNotValue (← r.argument 0)
  else if r.shape = .mapping then
    if r.args.length ≠ 2 then .ok .noKeyAndValue
    else do
      let key ← r.argument 0
      if key.isEnum && !key.intValued then return .keyNotWhole key
      else return .notValues (r.args.filter (!·.isValueType))
  else .ok (.unsupported r)

theorem findReason_eq (r : TypeRef) : findReason r = .ok (dropReason r) := by
  obtain ⟨name, module, qualname, shape, args, intValued⟩ := r
  cases shape with
  | sequence => rcases args with _ | ⟨element, _ | ⟨second, rest⟩⟩ <;> rfl
  | mapping =>
    rcases args with _ | ⟨key, _ | ⟨value, _ | ⟨third, rest⟩⟩⟩
    · rfl
    · rfl
    · change (if key.isEnum && !key.intValued then Except.ok (DropReason.keyNotWhole key)
        else .ok (.notValues ([key, value].filter (!·.isValueType)))) =
          .ok (if key.isEnum && !key.intValued then .keyNotWhole key
            else .notValues ([key, value].filter (!·.isValueType)))
      split <;> rfl
    · rfl
  | _ => rfl

/-! ## Reasons that are true -/

/-- Whether a reason for dropping a type is true of it. -/
inductive IsReason (r : TypeRef) : DropReason → Prop
  | noElementType (hshape : r.shape = .sequence) (hargs : r.args.length ≠ 1) :
      IsReason r .noElementType
  | elementNotValue {element : TypeRef} (hshape : r.shape = .sequence) (hargs : r.args = [element])
      (hvalue : element.isValueType = false) : IsReason r (.elementNotValue element)
  | noKeyAndValue (hshape : r.shape = .mapping) (hargs : r.args.length ≠ 2) :
      IsReason r .noKeyAndValue
  | keyNotWhole {key value : TypeRef} (hshape : r.shape = .mapping) (hargs : r.args = [key, value])
      (henum : key.isEnum = true) (hwhole : key.intValued = false) : IsReason r (.keyNotWhole key)
  | notValues {key value : TypeRef} (hshape : r.shape = .mapping) (hargs : r.args = [key, value])
      (hkey : ¬(key.isEnum = true ∧ key.intValued = false))
      (hrejected : r.args.filter (!·.isValueType) ≠ []) :
      IsReason r (.notValues (r.args.filter (!·.isValueType)))
  | unsupported (hshape : r.shape = .other) : IsReason r (.unsupported r)

section Truth

variable {r : TypeRef} {d : DropReason}

theorem accepts_eq_false (h : classify r = none) (rule : Rule) (hrule : rule ∈ rules) :
    rule.accepts r = false := by
  have hfind : rules.find? (·.accepts r) = none := Option.map_eq_none_iff.mp h
  exact Bool.eq_false_iff.mpr (List.find?_eq_none.mp hfind rule hrule)

theorem isKeyType_eq {key : TypeRef} (hkey : ¬(key.isEnum = true ∧ key.intValued = false)) :
    key.isKeyType = key.isValueType := by
  unfold TypeRef.isKeyType
  cases henum : key.isEnum <;> cases hwhole : key.intValued <;> simp [henum, hwhole] at hkey ⊢

theorem isReason_dropReason (h : classify r = none) : IsReason r (dropReason r) := by
  have hsequence := accepts_eq_false h ⟨.sequence, TypeRef.isSequence⟩ (by simp [rules])
  have hmapping := accepts_eq_false h ⟨.mapping, TypeRef.isMapping⟩ (by simp [rules])
  have hscalar := accepts_eq_false h ⟨.scalar, TypeRef.isScalar⟩ (by simp [rules])
  have hvector3 := accepts_eq_false h ⟨.vector3, fun r => r.shape == .vector3⟩ (by simp [rules])
  have hvector2 := accepts_eq_false h ⟨.vector2, fun r => r.shape == .vector2⟩ (by simp [rules])
  obtain ⟨name, module, qualname, shape, args, intValued⟩ := r
  cases shape with
  | sequence =>
    rcases args with _ | ⟨element, _ | ⟨second, rest⟩⟩
    · exact .noElementType rfl (by simp [TypeRef.args])
    · exact .elementNotValue rfl rfl hsequence
    · exact .noElementType rfl (by simp [TypeRef.args])
  | mapping =>
    rcases args with _ | ⟨key, _ | ⟨value, _ | ⟨third, rest⟩⟩⟩
    · exact .noKeyAndValue rfl (by simp [TypeRef.args])
    · exact .noKeyAndValue rfl (by simp [TypeRef.args])
    · change IsReason _ (if key.isEnum && !key.intValued then .keyNotWhole key
        else .notValues ([key, value].filter (!·.isValueType)))
      split
      · rename_i hkey
        rw [Bool.and_eq_true, Bool.not_eq_true'] at hkey
        exact .keyNotWhole rfl rfl hkey.1 hkey.2
      · rename_i hkey
        rw [Bool.and_eq_true, Bool.not_eq_true'] at hkey
        refine .notValues rfl rfl hkey fun hnone => ?_
        -- with a key and a value among the value types the type is a mapping
        have hpair : (key.isKeyType && value.isValueType) = false := hmapping
        rw [isKeyType_eq hkey] at hpair
        have hall : ∀ argument ∈ [key, value], argument.isValueType = true := by
          simpa [TypeRef.args] using List.filter_eq_nil_iff.mp hnone
        rw [hall key (by simp), hall value (by simp)] at hpair
        cases hpair
    · exact .noKeyAndValue rfl (by simp [TypeRef.args])
  | other => exact .unsupported rfl
  | vector3 => cases hvector3
  | vector2 => cases hvector2
  | primitive => cases hscalar
  | enum => cases hscalar

end Truth

/-! ## Wordings -/

/-- What stands before and after the types that a reason shows. -/
structure Wording where
  front : String
  back : String
  deriving DecidableEq

def Wording.text (w : Wording) (shown : String) : String := w.front ++ shown ++ w.back

def wordings : List Wording :=
  [⟨"list without an", " element type"⟩, ⟨"list element ", " is not a value type"⟩,
    ⟨"dict without key", " and value types"⟩, ⟨"dict key ", " has non-integer enum values"⟩,
    ⟨"dict ", " is not a value type"⟩, ⟨"unsupported type ", ""⟩]

/-- Whether texts of two wordings differ in how they begin or in how they end. -/
def Wording.isApart (w w' : Wording) : Bool :=
  w.front.toList.take 5 != w'.front.toList.take 5 ||
    (8 ≤ w.back.toList.length && 8 ≤ w'.back.toList.length &&
      w.back.toList.reverse.take 8 != w'.back.toList.reverse.take 8)

theorem five_le_length_front {w : Wording} (hw : w ∈ wordings) : 5 ≤ w.front.toList.length := by
  have hall : ∀ w ∈ wordings, 5 ≤ w.front.toList.length := by decide
  exact hall w hw

/-- Texts of two wordings differ, and so do texts of one wording that show different things. -/
theorem eq_of_text_eq {w w' : Wording} (hw : w ∈ wordings) (hw' : w' ∈ wordings) {x y : String}
    (h : w.text x = w'.text y) : w = w' ∧ x = y := by
  have hchars : w.front.toList ++ (x.toList ++ w.back.toList) =
      w'.front.toList ++ (y.toList ++ w'.back.toList) := by
    simpa [Wording.text, String.toList_append, List.append_assoc] using congrArg String.toList h
  have happart : w.isApart w' = false := by
    rw [Bool.eq_false_iff]
    intro hdiffer
    unfold Wording.isApart at hdiffer
    simp only [Bool.or_eq_true, Bool.and_eq_true, bne_iff_ne, decide_eq_true_eq] at hdiffer
    rcases hdiffer with hfront | ⟨⟨hback, hback'⟩, hend⟩
    · have htake := congrArg (List.take 5) hchars
      rw [List.take_append_of_le_length (five_le_length_front hw),
        List.take_append_of_le_length (five_le_length_front hw')] at htake
      exact hfront htake
    · have htake := congrArg (fun cs => cs.reverse.take 8) hchars
      simp only [List.reverse_append, List.append_assoc] at htake
      rw [List.take_append_of_le_length (by simpa using hback),
        List.take_append_of_le_length (by simpa using hback')] at htake
      exact hend htake
  have hall : ∀ w ∈ wordings, ∀ w' ∈ wordings, w.isApart w' = false → w = w' := by decide
  obtain rfl := hall w hw w' hw' happart
  refine ⟨rfl, ?_⟩
  rw [List.append_cancel_left_eq, List.append_cancel_right_eq] at hchars
  exact String.toList_inj.mp hchars

namespace DropReason

def wording : DropReason → Wording
  | .noElementType => ⟨"list without an", " element type"⟩
  | .elementNotValue _ => ⟨"list element ", " is not a value type"⟩
  | .noKeyAndValue => ⟨"dict without key", " and value types"⟩
  | .keyNotWhole _ => ⟨"dict key ", " has non-integer enum values"⟩
  | .notValues _ => ⟨"dict ", " is not a value type"⟩
  | .unsupported _ => ⟨"unsupported type ", ""⟩

def shown : DropReason → String
  | .noElementType | .noKeyAndValue => ""
  | .elementNotValue r | .keyNotWhole r | .unsupported r => r.display
  | .notValues rejected => "/".intercalate (rejected.map TypeRef.display)

theorem wording_mem (d : DropReason) : d.wording ∈ wordings := by
  cases d <;> simp [wording, wordings]

theorem text_eq (d : DropReason) : d.text = d.wording.text d.shown := by
  cases d with
  | unsupported r => simp [text, wording, shown, Wording.text, toString]
  | _ => rfl

end DropReason

section Texts

variable {r : TypeRef} {d : DropReason} {w : Wording} {x : String}

theorem IsReason.eq_dropReason (h : IsReason r d) : d = dropReason r := by
  unfold dropReason
  cases h with
  | noElementType hshape hargs =>
    rcases hlist : r.args with _ | ⟨element, _ | ⟨second, rest⟩⟩
    · rw [hshape]
    · exact absurd (congrArg List.length hlist) hargs
    · rw [hshape]
  | elementNotValue hshape hargs => rw [hshape, hargs]
  | noKeyAndValue hshape hargs =>
    rcases hlist : r.args with _ | ⟨key, _ | ⟨value, _ | ⟨third, rest⟩⟩⟩
    · rw [hshape]
    · rw [hshape]
    · exact absurd (congrArg List.length hlist) hargs
    · rw [hshape]
  | keyNotWhole hshape hargs henum hwhole =>
    rw [hshape, hargs]
    exact (if_pos (by rw [henum, hwhole]; rfl)).symm
  | notValues hshape hargs hkey =>
    rw [hshape, hargs]
    refine (if_neg ?_).symm
    rwa [Bool.and_eq_true, Bool.not_eq_true']
  | unsupported hshape => rw [hshape]

/-- The text for a dropped type has a wording exactly if a reason of this wording is true. -/
theorem text_dropReason_eq_iff (h : classify r = none) (hw : w ∈ wordings) :
    (dropReason r).text = w.text x ↔ ∃ d, IsReason r d ∧ d.wording = w ∧ d.shown = x := by
  rw [DropReason.text_eq]
  constructor
  · intro htext
    obtain ⟨hwording, hshown⟩ := eq_of_text_eq (DropReason.wording_mem _) hw htext
    exact ⟨_, isReason_dropReason h, hwording, hshown⟩
  · rintro ⟨d, hd, rfl, rfl⟩
    rw [hd.eq_dropReason]

/-- A dropped type is told why: a reason is found, and each wording of it stands exactly where what
it says is true of the type and its arguments. -/
theorem findReason_explains (h : classify r = none) :
    ∃ text, (findReason r).map (·.text) = .ok text ∧
      (text = "list without an element type" ↔ r.shape = .sequence ∧ r.args.length ≠ 1) ∧
      (∀ x, text = "list element " ++ x ++ " is not a value type" ↔ r.shape = .sequence ∧
        ∃ element, r.args = [element] ∧ element.isValueType = false ∧ x = element.display) ∧
      (text = "dict without key and value types" ↔ r.shape = .mapping ∧ r.args.length ≠ 2) ∧
      (∀ x, text = "dict key " ++ x ++ " has non-integer enum values" ↔ r.shape = .mapping ∧
        ∃ key value, r.args = [key, value] ∧ (key.isEnum = true ∧ key.intValued = false) ∧
          x = key.display) ∧
      (∀ x, text = "dict " ++ x ++ " is not a value type" ↔ r.shape = .mapping ∧
        ∃ key value, r.args = [key, value] ∧ ¬(key.isEnum = true ∧ key.intValued = false) ∧
          ∃ rejected, rejected = [key, value].filter (!·.isValueType) ∧ rejected ≠ [] ∧
            x = "/".intercalate (rejected.map TypeRef.display)) ∧
      (∀ x, text = "unsupported type " ++ x ↔ r.shape = .other ∧ x = r.display) := by
  have htext {w : Wording} (hw : w ∈ wordings) (x : String) := text_dropReason_eq_iff (x := x) h hw
  refine ⟨(dropReason r).text, by rw [findReason_eq]; rfl, ?_, fun x => ?_, ?_, fun x => ?_,
    fun x => ?_, fun x => ?_⟩
  · refine (htext (w := ⟨"list without an", " element type"⟩) (by decide) "").trans ⟨?_, ?_⟩
    · rintro ⟨d, hd, hwording, -⟩
      cases hd with
      | noElementType hshape hargs => exact ⟨hshape, hargs⟩
      | _ => simp [DropReason.wording] at hwording
    · rintro ⟨hshape, hargs⟩
      exact ⟨_, .noElementType hshape hargs, rfl, rfl⟩
  · refine (htext (w := ⟨"list element ", " is not a value type"⟩) (by decide) x).trans ⟨?_, ?_⟩
    · rintro ⟨d, hd, hwording, hshown⟩
      cases hd with
      | elementNotValue hshape hargs hvalue => exact ⟨hshape, _, hargs, hvalue, hshown.symm⟩
      | _ => simp [DropReason.wording] at hwording
    · rintro ⟨hshape, element, hargs, hvalue, rfl⟩
      exact ⟨_, .elementNotValue hshape hargs hvalue, rfl, rfl⟩
  · refine (htext (w := ⟨"dict without key", " and value types"⟩) (by decide) "").trans ⟨?_, ?_⟩
    · rintro ⟨d, hd, hwording, -⟩
      cases hd with
      | noKeyAndValue hshape hargs => exact ⟨hshape, hargs⟩
      | _ => simp [DropReason.wording] at hwording
    · rintro ⟨hshape, hargs⟩
      exact ⟨_, .noKeyAndValue hshape hargs, rfl, rfl⟩
  · refine (htext (w := ⟨"dict key ", " has non-integer enum values"⟩) (by decide) x).trans
      ⟨?_, ?_⟩
    · rintro ⟨d, hd, hwording, hshown⟩
      cases hd with
      | keyNotWhole hshape hargs henum hwhole =>
        exact ⟨hshape, _, _, hargs, ⟨henum, hwhole⟩, hshown.symm⟩
      | _ => simp [DropReason.wording] at hwording
    · rintro ⟨hshape, key, value, hargs, ⟨henum, hwhole⟩, rfl⟩
      exact ⟨_, .keyNotWhole hshape hargs henum hwhole, rfl, rfl⟩
  · refine (htext (w := ⟨"dict ", " is not a value type"⟩) (by decide) x).trans ⟨?_, ?_⟩
    · rintro ⟨d, hd, hwording, hshown⟩
      cases hd with
      | notValues hshape hargs hkey hrejected =>
        rw [hargs] at hrejected hshown
        exact ⟨hshape, _, _, hargs, hkey, _, rfl, hrejected, hshown.symm⟩
      | _ => simp [DropReason.wording] at hwording
    · rintro ⟨hshape, key, value, hargs, hkey, rejected, rfl, hrejected, rfl⟩
      rw [← hargs] at hrejected ⊢
      exact ⟨_, .notValues hshape hargs hkey hrejected, rfl, rfl⟩
  · have hplain : "unsupported type " ++ x = Wording.text ⟨"unsupported type ", ""⟩ x := by
      simp [Wording.text]
    rw [hplain]
    refine (htext (w := ⟨"unsupported type ", ""⟩) (by decide) x).trans ⟨?_, ?_⟩
    · rintro ⟨d, hd, hwording, hshown⟩
      cases hd with
      | unsupported hshape => exact ⟨hshape, hshown.symm⟩
      | _ => simp [DropReason.wording] at hwording
    · rintro ⟨hshape, rfl⟩
      exact ⟨_, .unsupported hshape, rfl, rfl⟩

end Texts

def squadsByName : TypeRef :=
  .mk "dict" "builtins" "dict" .mapping
    [.leaf "str" "builtins" "str" .other,
      .mk "list" "builtins" "list" .sequence [.leaf "int" "builtins" "int" .primitive] false] false

/-- Neither the keys nor the values of the dictionary are of a value type, and its reason shows
both. -/
theorem findReason_squadsByName :
    classify squadsByName = none ∧
      (findReason squadsByName).map (·.text) = .ok "dict str/list[int] is not a value type" := by
  have hnone : classify squadsByName = none := by decide
  obtain ⟨text, hfound, -, -, -, -, hvalues, -⟩ := findReason_explains hnone
  refine ⟨hnone, hfound.trans (congrArg Except.ok ?_)⟩
  exact (hvalues "str/list[int]").mpr
    ⟨rfl, _, _, rfl, by decide, _, rfl, by simp [TypeRef.isValueType, TypeRef.leaf,
      TypeRef.shape, Shape.isValue], by decide⟩

end StructForge.Schema

import StructForge.Proofs.Live.Description

/-! # Hints of retained fields

A field is retained if its hint is a list or dictionary of values, a vector, a number or an enum.
Lists and dictionaries have two spellings; whatever they hold is a class. -/

namespace StructForge.Live

open Schema

variable {r : Registry} {h : Hint} {k : ClassRef}

theorem exists_class_of_isValueType (hvalue : (h.describe r).isValueType = true) :
    ∃ k, h = .cls k ∧ h.describe r = r.describeClass k := by
  unfold Hint.describe at hvalue ⊢
  split at hvalue
  all_goals first | exact ⟨_, rfl, rfl⟩ | cases hvalue

theorem describe_of_isValueType (hvalue : ((Hint.cls k).describe r).isValueType = true) :
    (Hint.cls k).describe r = r.describeClass k := by
  obtain ⟨k', hk, hdescribe⟩ := exists_class_of_isValueType hvalue
  cases hk
  exact hdescribe

inductive IsRetained (r : Registry) : Hint → Category → Prop
  | list {h : Hint} {k : ClassRef}
      (hspelled : h = .generic .list [.cls k] ∨ h = .capitalGeneric .list [.cls k])
      (helement : ((Hint.cls k).describe r).isValueType = true) : IsRetained r h .sequence
  | dict {h : Hint} {k v : ClassRef}
      (hspelled : h = .generic .dict [.cls k, .cls v] ∨ h = .capitalGeneric .dict [.cls k, .cls v])
      (hkey : ((Hint.cls k).describe r).isValueType = true)
      (hvalue : ((Hint.cls v).describe r).isValueType = true) : IsRetained r h .mapping
  | vector3 : IsRetained r (.cls .vector3) .vector3
  | vector2 : IsRetained r (.cls .vector2) .vector2
  | scalar {k : ClassRef} (hscalar : ((Hint.cls k).describe r).isScalar = true) :
      IsRetained r (.cls k) .scalar

theorem isValueType_of_isScalar {t : TypeRef} (hscalar : t.isScalar = true) :
    t.isValueType = true := by
  unfold TypeRef.isScalar at hscalar
  unfold TypeRef.isValueType
  rcases Bool.or_eq_true_iff.mp hscalar with hshape | hshape <;> rw [eq_of_beq hshape] <;> rfl

theorem shape_describeClass (h2 : k ≠ .vector2) (h3 : k ≠ .vector3) :
    (r.describeClass k).shape ∈ [Shape.primitive, .enum, .other] := by
  by_cases hnumber : ∃ kind, k = .number kind
  · obtain ⟨kind, rfl⟩ := hnumber
    exact List.mem_cons_self
  rw [describeClass_eq h3 h2 hnumber]
  split
  · exact List.mem_cons_of_mem _ List.mem_cons_self
  · split
    · exact List.mem_cons_self
    · exact List.mem_cons_of_mem _ (List.mem_cons_of_mem _ List.mem_cons_self)

theorem eq_of_shape_describeClass {shape : Shape} (hshape : (r.describeClass k).shape = shape)
    (hother : shape ∉ [Shape.primitive, .enum, .other]) :
    (k = .vector2 ∧ shape = .vector2) ∨ (k = .vector3 ∧ shape = .vector3) := by
  by_cases h2 : k = .vector2
  · exact .inl ⟨h2, by rw [← hshape, h2]; rfl⟩
  by_cases h3 : k = .vector3
  · exact .inr ⟨h3, by rw [← hshape, h3]; rfl⟩
  · exact absurd (hshape ▸ shape_describeClass h2 h3) hother

theorem describe_vector (hvalue : ((Hint.cls k).describe r).isValueType = true) :
    (((Hint.cls k).describe r).shape = .vector3 →
      (Hint.cls k).describe r = describeAs .vector3 .vector3) ∧
    (((Hint.cls k).describe r).shape = .vector2 →
      (Hint.cls k).describe r = describeAs .vector2 .vector2) := by
  rw [describe_of_isValueType hvalue]
  constructor
  · intro hshape
    obtain ⟨-, ⟨⟩⟩ | ⟨rfl, -⟩ := eq_of_shape_describeClass hshape (by decide)
    rfl
  · intro hshape
    obtain ⟨rfl, -⟩ | ⟨-, ⟨⟩⟩ := eq_of_shape_describeClass hshape (by decide)
    rfl

theorem exists_list_of_isSequence (hsequence : (h.describe r).isSequence = true) :
    ∃ k, (h = .generic .list [.cls k] ∨ h = .capitalGeneric .list [.cls k]) ∧
      ((Hint.cls k).describe r).isValueType = true := by
  have hargs {args : List Hint}
      (hlist : (TypeRef.mk "list" "builtins" "list" .sequence (describeAll r args)
        false).isSequence = true) :
      ∃ k, args = [.cls k] ∧ ((Hint.cls k).describe r).isValueType = true := by
    rcases args with _ | ⟨element, _ | ⟨second, rest⟩⟩
    · cases hlist
    · have helement : (element.describe r).isValueType = true := hlist
      obtain ⟨k, rfl, -⟩ := exists_class_of_isValueType helement
      exact ⟨k, rfl, helement⟩
    · cases hlist
  unfold Hint.describe at hsequence
  split at hsequence
  case h_5 args =>
    obtain ⟨k, rfl, helement⟩ := hargs hsequence
    exact ⟨k, .inl rfl, helement⟩
  case h_6 args =>
    obtain ⟨k, rfl, helement⟩ := hargs hsequence
    exact ⟨k, .inr rfl, helement⟩
  case h_9 =>
    have hshape := eq_of_beq (Bool.and_eq_true_iff.mp hsequence).1
    rcases eq_of_shape_describeClass hshape (by decide) with ⟨-, hshape⟩ | ⟨-, hshape⟩ <;>
      cases hshape
  all_goals cases hsequence

/-- A dictionary of values is spelled in one of two ways. -/
theorem exists_dict_of_isMapping (hmapping : (h.describe r).isMapping = true) :
    ∃ k v, (h = .generic .dict [.cls k, .cls v] ∨ h = .capitalGeneric .dict [.cls k, .cls v]) ∧
      ((Hint.cls k).describe r).isValueType = true ∧
      ((Hint.cls v).describe r).isValueType = true := by
  have hargs {args : List Hint}
      (hdict : (TypeRef.mk "dict" "builtins" "dict" .mapping (describeAll r args)
        false).isMapping = true) :
      ∃ k v, args = [.cls k, .cls v] ∧ ((Hint.cls k).describe r).isValueType = true ∧
        ((Hint.cls v).describe r).isValueType = true := by
    rcases args with _ | ⟨key, _ | ⟨value, _ | ⟨third, rest⟩⟩⟩
    · cases hdict
    · cases hdict
    · have hboth : ((key.describe r).isKeyType && (value.describe r).isValueType) = true := hdict
      obtain ⟨hkey, hvalue⟩ := Bool.and_eq_true_iff.mp hboth
      have hkey := (Bool.and_eq_true_iff.mp hkey).1
      obtain ⟨k, rfl, -⟩ := exists_class_of_isValueType hkey
      obtain ⟨v, rfl, -⟩ := exists_class_of_isValueType hvalue
      exact ⟨k, v, rfl, hkey, hvalue⟩
    · cases hdict
  unfold Hint.describe at hmapping
  split at hmapping
  case h_7 args =>
    obtain ⟨k, v, rfl, hkey, hvalue⟩ := hargs hmapping
    exact ⟨k, v, .inl rfl, hkey, hvalue⟩
  case h_8 args =>
    obtain ⟨k, v, rfl, hkey, hvalue⟩ := hargs hmapping
    exact ⟨k, v, .inr rfl, hkey, hvalue⟩
  case h_9 =>
    have hshape := eq_of_beq (Bool.and_eq_true_iff.mp hmapping).1
    rcases eq_of_shape_describeClass hshape (by decide) with ⟨-, hshape⟩ | ⟨-, hshape⟩ <;>
      cases hshape
  all_goals cases hmapping

theorem IsRetained.args_sequence (hretained : IsRetained r h .sequence) :
    ∃ k, ((Hint.cls k).describe r).isValueType = true ∧
      (h.describe r).args = [(Hint.cls k).describe r] := by
  cases hretained with
  | list hspelled helement =>
    refine ⟨_, helement, ?_⟩
    rcases hspelled with rfl | rfl <;> rfl

theorem IsRetained.args_mapping (hretained : IsRetained r h .mapping) :
    ∃ k v, ((Hint.cls k).describe r).isValueType = true ∧
      ((Hint.cls v).describe r).isValueType = true ∧
      (h.describe r).args =
        [(Hint.cls k).describe r, (Hint.cls v).describe r] := by
  cases hretained with
  | dict hspelled hkey hvalue =>
    refine ⟨_, _, hkey, hvalue, ?_⟩
    rcases hspelled with rfl | rfl <;> rfl

theorem isRetained_of_classify {c : Category} (hclassify : classify (h.describe r) = some c) :
    IsRetained r h c := by
  obtain ⟨rule, hrule, rfl, haccepts⟩ := exists_rule_of_classify hclassify
  simp only [rules, List.mem_cons, List.not_mem_nil, or_false] at hrule
  have hvector {shape : Shape} (hshape : (h.describe r).shape = shape)
      (hvalue : shape.isValue = true) (hother : shape ∉ [Shape.primitive, .enum, .other]) :
      (h = .cls .vector2 ∧ shape = .vector2) ∨ (h = .cls .vector3 ∧ shape = .vector3) := by
    obtain ⟨k, rfl, hk⟩ := exists_class_of_isValueType (h := h) (r := r) (by
      unfold TypeRef.isValueType
      rw [hshape, hvalue])
    rw [hk] at hshape
    rcases eq_of_shape_describeClass hshape hother with ⟨rfl, hsame⟩ | ⟨rfl, hsame⟩
    · exact .inl ⟨rfl, hsame⟩
    · exact .inr ⟨rfl, hsame⟩
  rcases hrule with rfl | rfl | rfl | rfl | rfl
  · obtain ⟨k, hspelled, helement⟩ := exists_list_of_isSequence haccepts
    exact .list hspelled helement
  · obtain ⟨k, v, hspelled, hkey, hvalue⟩ := exists_dict_of_isMapping haccepts
    exact .dict hspelled hkey hvalue
  · obtain ⟨-, hshape⟩ | ⟨rfl, -⟩ := hvector (eq_of_beq haccepts) rfl (by decide)
    · cases hshape
    · exact .vector3
  · obtain ⟨rfl, -⟩ | ⟨-, hshape⟩ := hvector (eq_of_beq haccepts) rfl (by decide)
    · exact .vector2
    · cases hshape
  · obtain ⟨k, rfl, -⟩ := exists_class_of_isValueType (isValueType_of_isScalar haccepts)
    exact .scalar haccepts

end StructForge.Live

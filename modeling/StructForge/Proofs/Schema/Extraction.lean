import Mathlib.Data.List.Basic
import StructForge.Schema.FieldSet

/-! # Retained fields

A field is retained exactly if its type has a category, and then its type has the arguments that the
category needs. -/

namespace StructForge.Schema

variable {s : Source} {d : Descriptor}

theorem bucket_extract (s : Source) (c : Category) :
    s.extract.bucket c = s.fields.filterMap (Field.inCategory? c) := by
  cases c <;> rfl

theorem mem_extract :
    d ∈ s.extract.fields ↔
      ∃ f ∈ s.fields, classify f.type = some d.category ∧ d = f.describe d.category := by
  have hall (category : Category) : category ∈ Category.all := by cases category <;> decide
  simp only [FieldSet.fields, List.mem_flatMap, bucket_extract, List.mem_filterMap,
    Field.inCategory?]
  constructor
  · rintro ⟨category, -, f, hf, hd⟩
    split at hd
    · rename_i hclassify
      cases hd
      exact ⟨f, hf, hclassify, rfl⟩
    · cases hd
  · rintro ⟨f, hf, hclassify, hd⟩
    refine ⟨d.category, hall _, f, hf, ?_⟩
    rw [if_pos hclassify, ← hd]

theorem extract_fields_eq_nil :
    s.extract.fields = [] ↔ ∀ f ∈ s.fields, classify f.type = none := by
  rw [List.eq_nil_iff_forall_not_mem]
  constructor
  · intro h f hf
    rw [Option.eq_none_iff_forall_ne_some]
    intro c hc
    exact h (f.describe c) (mem_extract.mpr ⟨f, hf, hc, rfl⟩)
  · intro h d hd
    obtain ⟨f, hf, hclassify, -⟩ := mem_extract.mp hd
    rw [h f hf] at hclassify
    cases hclassify

theorem exists_rule_of_classify {r : TypeRef} {c : Category} (h : classify r = some c) :
    ∃ rule ∈ rules, rule.category = c ∧ rule.accepts r = true := by
  obtain ⟨rule, hfind, hcategory⟩ := Option.map_eq_some_iff.mp h
  have haccepts := List.find?_some (p := fun rule : Rule => rule.accepts r) hfind
  exact ⟨rule, List.mem_of_find?_eq_some hfind, hcategory, haccepts⟩

/-- A field whose type has the arguments of its category. -/
inductive IsClassified (d : Descriptor) : Prop
  | sequence {element : TypeRef} (hcategory : d.category = .sequence)
      (hargs : d.type.args = [element]) : IsClassified d
  | mapping {key value : TypeRef} (hcategory : d.category = .mapping)
      (hargs : d.type.args = [key, value]) : IsClassified d
  | vector (hcategory : d.category = .vector3 ∨ d.category = .vector2) : IsClassified d
  | scalar (hcategory : d.category = .scalar) (htype : d.type.isScalar = true) : IsClassified d

theorem isClassified_of_mem_extract (h : d ∈ s.extract.fields) : IsClassified d := by
  obtain ⟨f, -, hclassify, hd⟩ := mem_extract.mp h
  have htype : d.type = f.type := by rw [hd]; rfl
  rw [← htype] at hclassify
  obtain ⟨rule, hrule, hcategory, haccepts⟩ := exists_rule_of_classify hclassify
  have hrow : rule = ⟨.sequence, TypeRef.isSequence⟩ ∨ rule = ⟨.mapping, TypeRef.isMapping⟩ ∨
      rule = ⟨.vector3, fun r => r.shape == .vector3⟩ ∨
      rule = ⟨.vector2, fun r => r.shape == .vector2⟩ ∨ rule = ⟨.scalar, TypeRef.isScalar⟩ := by
    simpa [rules] using hrule
  rcases hrow with rfl | rfl | rfl | rfl | rfl
  · rcases hargs : d.type.args with _ | ⟨element, _ | ⟨second, rest⟩⟩
    case cons.nil => exact .sequence hcategory.symm hargs
    all_goals simp [TypeRef.isSequence, hargs] at haccepts
  · rcases hargs : d.type.args with _ | ⟨key, _ | ⟨value, _ | ⟨third, rest⟩⟩⟩
    case cons.cons.nil => exact .mapping hcategory.symm hargs
    all_goals simp [TypeRef.isMapping, hargs] at haccepts
  · exact .vector (.inl hcategory.symm)
  · exact .vector (.inr hcategory.symm)
  · exact .scalar hcategory.symm haccepts

end StructForge.Schema

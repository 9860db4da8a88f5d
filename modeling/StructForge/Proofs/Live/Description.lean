import StructForge.Live.Comparison
import StructForge.Proofs.Schema.Extraction
import StructForge.Proofs.Steps

/-! # Descriptions of classes

What is known about the fields of a class that can be described: where they come from, and which
types are scalars. -/

namespace StructForge.Live

open Schema

variable {r : Registry} {c : ClassRef} {hints : List (String × Hint)} {source : Source}

theorem mem_publicFields {f : Field} :
    f ∈ r.publicFields c hints ↔ f.name ∈ r.fieldNames c hints ∧ Registry.isPublic f.name = true ∧
      ∃ h, hints.lookup f.name = some h ∧ f.type = h.describe r := by
  simp only [Registry.publicFields, List.mem_filterMap, List.mem_filter, Option.map_eq_some_iff]
  constructor
  · rintro ⟨name, ⟨hname, hpublic⟩, h, hlookup, rfl⟩
    exact ⟨hname, hpublic, h, hlookup, rfl⟩
  · rintro ⟨hname, hpublic, h, hlookup, htype⟩
    refine ⟨f.name, ⟨hname, hpublic⟩, h, hlookup, ?_⟩
    rw [← htype]

theorem describe_ok (h : r.describe c = .ok source) :
    ∃ hints, r.resolvedHints c = .ok hints ∧
      source = ⟨c.label.name, c.label.module, c.label.qualname, r.publicFields c hints⟩ := by
  unfold Registry.describe at h
  split at h
  · cases h
  · rename_i hints hhints
    cases h
    exact ⟨hints, hhints, rfl⟩

theorem exists_hint_of_mem_extract (h : r.describe c = .ok source) {d : Descriptor}
    (hd : d ∈ source.extract.fields) : ∃ hint : Hint, d.type = hint.describe r := by
  obtain ⟨hints, -, rfl⟩ := describe_ok h
  obtain ⟨f, hf, -, hd⟩ := mem_extract.mp hd
  obtain ⟨-, -, hint, -, htype⟩ := mem_publicFields.mp hf
  refine ⟨hint, ?_⟩
  rw [hd, ← htype]
  rfl

/-- A class that is neither a vector nor a number of fixed width is an enum, one of three built-in
types, or something else. -/
theorem describeClass_eq (h3 : c ≠ .vector3) (h2 : c ≠ .vector2)
    (hnumber : ¬∃ kind, c = .number kind) :
    r.describeClass c =
      if c.enumBase?.isSome then
        .mk c.label.name c.label.module c.label.qualname .enum [] (r.isIntValued c)
      else if [ClassRef.builtin "bool", .builtin "int", .builtin "float"].contains c then
        describeAs c .primitive
      else describeAs c .other := by
  cases c with
  | vector3 => exact absurd rfl h3
  | vector2 => exact absurd rfl h2
  | number kind => exact absurd ⟨kind, rfl⟩ hnumber
  | _ => rfl

/-- A hint without parts is described as it is where objects say nothing of themselves. -/
theorem describeLeaf_default (h : Hint) : Comparison.describeLeaf {} r h = .ok (h.describe r) := by
  unfold Comparison.describeLeaf Comparison.isNumeric
  split
  · rfl
  · rfl
  · rename_i name
    by_cases hname : ["bool", "int", "float"].contains name = true
    · rw [hname]
      simp only [List.contains_iff_mem, List.mem_cons, List.not_mem_nil, or_false] at hname
      rcases hname with rfl | rfl | rfl <;> rfl
    · rw [Bool.eq_false_iff.mpr hname]
      rfl
  · rfl
  · rfl

mutual

theorem Hint.describeBy_default (h : Hint) : h.describeBy {} r = .ok (h.describe r) := by
  unfold Hint.describeBy
  split
  case h_5 => exact describeLeaf_default _
  all_goals
    rename_i args
    rw [describeAllBy_default args]
    rfl

theorem describeAllBy_default (hs : List Hint) : describeAllBy {} r hs = .ok (describeAll r hs) := by
  cases hs with
  | nil => rfl
  | cons h hs =>
    unfold describeAllBy
    rw [h.describeBy_default, describeAllBy_default hs]
    rfl

end

/-- Where objects say nothing of themselves, a class is described unless its hints do not resolve. -/
theorem Registry.describeBy_default : r.describeBy {} c = r.describe c := by
  have hfields (hints : List (String × Hint)) :
      r.publicFieldsBy {} c hints = .ok (r.publicFields c hints) := by
    unfold Registry.publicFieldsBy Registry.publicFields
    rw [mapM_eq_ok_map (g := fun p => ⟨p.1, p.2.describe r⟩), List.map_filterMap]
    · simp only [Option.map_map, Function.comp_def]
    · rintro ⟨name, h⟩ -
      simp only [h.describeBy_default, ok_bind]
      rfl
  unfold Registry.describeBy Registry.describe
  cases r.resolvedHints c with
  | error reason => rfl
  | ok hints => simp only [hfields]

theorem label_of_describeBy {k : Comparison} (h : r.describeBy k c = .ok source) :
    source.name = c.label.name ∧ source.module = c.label.module ∧
      source.qualname = c.label.qualname := by
  unfold Registry.describeBy at h
  split at h
  · cases h
  split at h
  · cases h
  · cases h
    exact ⟨rfl, rfl, rfl⟩

end StructForge.Live

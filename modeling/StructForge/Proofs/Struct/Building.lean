import StructForge.Proofs.Struct.ImportTable
import StructForge.Struct.Model

/-! # What a model is built of

A model that is built comes with a sound table of imports, in which each of its expressions denotes
the type that it was made for. Each field has its own slot, of the content for its category. -/

namespace StructForge.Struct

open Schema

/-- The types that the element type of a container refers to. Vectors are the library's own. -/
def elementReferences (r : TypeRef) : List Reference :=
  if r.isVector then [] else [(r.module, r.qualname)]

/-- The types that a field refers to. A key of an enum is stored as a number. -/
def fieldReferences (d : Descriptor) : List Reference :=
  match d.category, d.type.args with
  | .sequence, element :: _ => elementReferences element
  | .mapping, [key, value] =>
    (if key.isEnum then [] else elementReferences key) ++ elementReferences value
  | .scalar, _ => [(d.type.module, d.type.qualname)]
  | _, _ => []

/-- The types that a generated module refers to, its source type first. -/
def references (t : Target) (fields : List Descriptor) : List Reference :=
  (t.sourceModule, t.sourceQualname) :: fields.flatMap fieldReferences

/-- The expression for the element type of a container. -/
inductive ElementType (i : Imports) (r : TypeRef) : String → Prop
  | vector3 (hshape : r.shape = .vector3) (hbound : .float3 ∈ i.runtime) : ElementType i r "float3"
  | vector2 (hshape : r.shape = .vector2) (hbound : .float2 ∈ i.runtime) : ElementType i r "float2"
  | other {e : String} (hshape : r.isVector = false)
      (hdenotes : i.Denotes (r.module, r.qualname) e) : ElementType i r e

/-- The content of the slot for a field. -/
inductive ContentOf (i : Imports) (d : Descriptor) : Content → Prop
  | sequence {element : TypeRef} {rest : List TypeRef} {e : String}
      (hcategory : d.category = .sequence) (hargs : d.type.args = element :: rest)
      (hallocator : .allocator ∈ i.runtime) (hbound : .array ∈ i.runtime)
      (helement : ElementType i element e) : ContentOf i d (.array e (.ofType element))
  | widened {key value : TypeRef} {e : String}
      (hcategory : d.category = .mapping) (hargs : d.type.args = [key, value])
      (hallocator : .allocator ∈ i.runtime) (hbound : .map ∈ i.runtime)
      (hkey : key.isEnum = true) (hvalue : ElementType i value e) :
      ContentOf i d (.map enumKeyName e .widen (.ofType value))
  | mapping {key value : TypeRef} {e e' : String}
      (hcategory : d.category = .mapping) (hargs : d.type.args = [key, value])
      (hallocator : .allocator ∈ i.runtime) (hbound : .map ∈ i.runtime)
      (hkey : key.isEnum = false) (helement : ElementType i key e)
      (hvalue : ElementType i value e') :
      ContentOf i d (.map e e' (.copy (.ofType key)) (.ofType value))
  | vector3 (hcategory : d.category = .vector3) (hbound : .float3 ∈ i.runtime) :
      ContentOf i d .vector3
  | vector2 (hcategory : d.category = .vector2) (hbound : .float2 ∈ i.runtime) :
      ContentOf i d .vector2
  | scalar {e : String} {zero : Zero} (hcategory : d.category = .scalar)
      (hdenotes : i.Denotes (d.type.module, d.type.qualname) e) (hzero : zeroOf d.type = .ok zero) :
      ContentOf i d (.scalar e zero)

structure SlotOf (i : Imports) (d : Descriptor) (s : Slot) : Prop where
  name : s.name = d.name
  unreserved : d.name ∉ reservedMembers
  content : ContentOf i d s.content

section Monotone

variable {i j : Imports}

theorem ElementType.mono {r : TypeRef} {e : String} (h : ElementType i r e) (hext : i.Extends j) :
    ElementType j r e := by
  cases h with
  | vector3 hshape hbound => exact .vector3 hshape (hext.runtime _ hbound)
  | vector2 hshape hbound => exact .vector2 hshape (hext.runtime _ hbound)
  | other hshape hdenotes => exact .other hshape (hdenotes.mono hext)

theorem ContentOf.mono {d : Descriptor} {c : Content} (h : ContentOf i d c) (hext : i.Extends j) :
    ContentOf j d c := by
  cases h with
  | sequence hcategory hargs hallocator hbound helement =>
    exact .sequence hcategory hargs (hext.runtime _ hallocator) (hext.runtime _ hbound)
      (helement.mono hext)
  | widened hcategory hargs hallocator hbound hkey hvalue =>
    exact .widened hcategory hargs (hext.runtime _ hallocator) (hext.runtime _ hbound) hkey
      (hvalue.mono hext)
  | mapping hcategory hargs hallocator hbound hkey helement hvalue =>
    exact .mapping hcategory hargs (hext.runtime _ hallocator) (hext.runtime _ hbound) hkey
      (helement.mono hext) (hvalue.mono hext)
  | vector3 hcategory hbound => exact .vector3 hcategory (hext.runtime _ hbound)
  | vector2 hcategory hbound => exact .vector2 hcategory (hext.runtime _ hbound)
  | scalar hcategory hdenotes hzero => exact .scalar hcategory (hdenotes.mono hext) hzero

theorem SlotOf.mono {d : Descriptor} {s : Slot} (h : SlotOf i d s) (hext : i.Extends j) :
    SlotOf j d s :=
  ⟨h.name, h.unreserved, h.content.mono hext⟩

end Monotone

namespace Build

variable {i j k : Imports} {asked : List Reference} {α β : Type}

theorem bind_ok {x : Build α} {f : α → Build β} {b : β} :
    (x >>= f) i = .ok (b, k) ↔ ∃ a j, x i = .ok (a, j) ∧ f a j = .ok (b, k) := by
  change (x i >>= fun p => f p.1 p.2) = _ ↔ _
  rw [bind_eq_ok]
  constructor
  · rintro ⟨⟨a, j⟩, hx, hf⟩
    exact ⟨a, j, hx, hf⟩
  · rintro ⟨a, j, hx, hf⟩
    exact ⟨(a, j), hx, hf⟩

theorem pure_ok {a b : α} : (pure a : Build α) i = .ok (b, j) ↔ a = b ∧ i = j := by
  change (.ok (a, i) : Except ModelFault (α × Imports)) = .ok (b, j) ↔ _
  rw [Except.ok.injEq, Prod.mk.injEq]

theorem not_throw_ok {f : ModelFault} {b : α} : ¬(throw f : Build α) i = .ok (b, j) := by
  intro h
  cases h

theorem use_bind_ok {names : List RuntimeName} {f : Unit → Build β} {b : β}
    (h : (Build.use names >>= f) i = .ok (b, k)) : f () (i.use names) = .ok (b, k) := h

theorem expression_ok (hi : i.IsSound asked) {r : Reference} {e : String}
    (h : Build.expression r.1 r.2 i = .ok (e, j)) :
    j.IsSound (asked ++ [r]) ∧ i.Extends j ∧ j.Denotes r e := by
  unfold Build.expression at h
  split at h
  · rename_i answer hexpr
    cases h
    exact hi.expression hexpr
  · cases h

theorem elementType_ok (hi : i.IsSound asked) {r : TypeRef} {e : String}
    (h : Build.elementType r i = .ok (e, j)) :
    j.IsSound (asked ++ elementReferences r) ∧ i.Extends j ∧ ElementType j r e := by
  unfold elementReferences TypeRef.isVector
  by_cases hshape3 : r.shape = .vector3
  · simp only [Build.elementType, hshape3] at h
    have h := use_bind_ok h
    obtain ⟨rfl, rfl⟩ := pure_ok.mp h
    obtain ⟨hsound, hext, hbound⟩ := hi.use [.float3]
    rw [hshape3, if_pos (by decide), List.append_nil]
    exact ⟨hsound, hext, .vector3 hshape3 (hbound _ List.mem_cons_self)⟩
  by_cases hshape2 : r.shape = .vector2
  · simp only [Build.elementType, hshape2] at h
    have h := use_bind_ok h
    obtain ⟨rfl, rfl⟩ := pure_ok.mp h
    obtain ⟨hsound, hext, hbound⟩ := hi.use [.float2]
    rw [hshape2, if_pos (by decide), List.append_nil]
    exact ⟨hsound, hext, .vector2 hshape2 (hbound _ List.mem_cons_self)⟩
  have hother : Build.elementType r = Build.expression r.module r.qualname := by
    unfold Build.elementType
    split
    · contradiction
    · contradiction
    · rfl
  rw [hother] at h
  obtain ⟨hsound, hext, hdenotes⟩ := expression_ok (r := (r.module, r.qualname)) hi h
  have hvector : (r.shape == .vector2 || r.shape == .vector3) = false := by
    simp [hshape2, hshape3]
  rw [hvector, if_neg Bool.false_ne_true]
  exact ⟨hsound, hext, .other hvector hdenotes⟩

theorem sequence_ok (hi : i.IsSound asked) {d : Descriptor} {c : Content}
    (hcategory : d.category = .sequence) (h : Build.content d i = .ok (c, j)) :
    j.IsSound (asked ++ fieldReferences d) ∧ i.Extends j ∧ ContentOf j d c := by
  unfold Build.content at h
  unfold fieldReferences
  rw [hcategory] at h ⊢
  have h := use_bind_ok h
  obtain ⟨hsound₁, hext₁, hbound⟩ := hi.use [.allocator, .array]
  cases hargs : d.type.args with
  | nil =>
    rw [hargs] at h
    exact absurd h not_throw_ok
  | cons element rest =>
    rw [hargs] at h
    obtain ⟨e, i₂, helement, hpure⟩ := bind_ok.mp h
    obtain ⟨rfl, rfl⟩ := pure_ok.mp hpure
    obtain ⟨hsound₂, hext₂, helement⟩ := elementType_ok hsound₁ helement
    exact ⟨hsound₂, hext₁.trans hext₂,
      .sequence hcategory hargs (hext₂.runtime _ (hbound _ (by simp)))
        (hext₂.runtime _ (hbound _ (by simp))) helement⟩

theorem mapping_ok (hi : i.IsSound asked) {d : Descriptor} {c : Content}
    (hcategory : d.category = .mapping) (h : Build.content d i = .ok (c, j)) :
    j.IsSound (asked ++ fieldReferences d) ∧ i.Extends j ∧ ContentOf j d c := by
  unfold Build.content at h
  unfold fieldReferences
  rw [hcategory] at h ⊢
  have h := use_bind_ok h
  obtain ⟨hsound₁, hext₁, hbound⟩ := hi.use [.allocator, .map]
  rcases hargs : d.type.args with _ | ⟨key, _ | ⟨value, _ | ⟨third, rest⟩⟩⟩
  · rw [hargs] at h
    exact absurd h not_throw_ok
  · rw [hargs] at h
    exact absurd h not_throw_ok
  · rw [hargs] at h
    cases hkey : key.isEnum with
    | true =>
      simp only [hkey, if_true] at h
      obtain ⟨ek, i₂, hpure, h⟩ := bind_ok.mp h
      obtain ⟨rfl, rfl⟩ := pure_ok.mp hpure
      obtain ⟨e, i₃, hvalue, hpure⟩ := bind_ok.mp h
      obtain ⟨rfl, rfl⟩ := pure_ok.mp hpure
      obtain ⟨hsound₃, hext₃, hvalue⟩ := elementType_ok hsound₁ hvalue
      simp only [hkey, if_true, List.nil_append]
      exact ⟨hsound₃, hext₁.trans hext₃,
        .widened hcategory hargs (hext₃.runtime _ (hbound _ (by simp)))
          (hext₃.runtime _ (hbound _ (by simp))) hkey hvalue⟩
    | false =>
      simp only [hkey, Bool.false_eq_true, if_false] at h
      obtain ⟨ek, i₂, hkeyType, h⟩ := bind_ok.mp h
      obtain ⟨hsound₂, hext₂, hkeyType⟩ := elementType_ok hsound₁ hkeyType
      obtain ⟨e, i₃, hvalue, hpure⟩ := bind_ok.mp h
      obtain ⟨rfl, rfl⟩ := pure_ok.mp hpure
      obtain ⟨hsound₃, hext₃, hvalue⟩ := elementType_ok hsound₂ hvalue
      have hext := hext₂.trans hext₃
      simp only [hkey, Bool.false_eq_true, if_false]
      rw [List.append_assoc] at hsound₃
      exact ⟨hsound₃, hext₁.trans hext,
        .mapping hcategory hargs (hext.runtime _ (hbound _ (by simp)))
          (hext.runtime _ (hbound _ (by simp))) hkey (hkeyType.mono hext₃) hvalue⟩
  · rw [hargs] at h
    exact absurd h not_throw_ok

theorem content_ok (hi : i.IsSound asked) {d : Descriptor} {c : Content}
    (h : Build.content d i = .ok (c, j)) :
    j.IsSound (asked ++ fieldReferences d) ∧ i.Extends j ∧ ContentOf j d c := by
  cases hcategory : d.category with
  | sequence => exact sequence_ok hi hcategory h
  | mapping => exact mapping_ok hi hcategory h
  | vector3 =>
    unfold Build.content at h
    unfold fieldReferences
    rw [hcategory] at h ⊢
    have h := use_bind_ok h
    obtain ⟨rfl, rfl⟩ := pure_ok.mp h
    obtain ⟨hsound, hext, hbound⟩ := hi.use [.float3]
    rw [List.append_nil]
    exact ⟨hsound, hext, .vector3 hcategory (hbound _ List.mem_cons_self)⟩
  | vector2 =>
    unfold Build.content at h
    unfold fieldReferences
    rw [hcategory] at h ⊢
    have h := use_bind_ok h
    obtain ⟨rfl, rfl⟩ := pure_ok.mp h
    obtain ⟨hsound, hext, hbound⟩ := hi.use [.float2]
    rw [List.append_nil]
    exact ⟨hsound, hext, .vector2 hcategory (hbound _ List.mem_cons_self)⟩
  | scalar =>
    unfold Build.content at h
    unfold fieldReferences
    rw [hcategory] at h ⊢
    obtain ⟨e, i₁, hexpr, h⟩ := bind_ok.mp h
    obtain ⟨hsound, hext, hdenotes⟩ :=
      expression_ok (r := (d.type.module, d.type.qualname)) hi hexpr
    cases hzero : zeroOf d.type with
    | ok zero =>
      rw [hzero] at h
      obtain ⟨rfl, rfl⟩ := pure_ok.mp h
      exact ⟨hsound, hext, .scalar hcategory hdenotes hzero⟩
    | error f =>
      rw [hzero] at h
      exact absurd h not_throw_ok

theorem slot_ok (hi : i.IsSound asked) {sourceName : String} {d : Descriptor} {s : Slot}
    (h : Build.slot sourceName d i = .ok (s, j)) :
    j.IsSound (asked ++ fieldReferences d) ∧ i.Extends j ∧ SlotOf j d s := by
  unfold Build.slot at h
  split at h
  · exact absurd h not_throw_ok
  · rename_i hreserved
    obtain ⟨c, j', hcontent, hpure⟩ := bind_ok.mp h
    obtain ⟨rfl, rfl⟩ := pure_ok.mp hpure
    obtain ⟨hsound, hext, hcontent⟩ := content_ok hi hcontent
    exact ⟨hsound, hext, rfl, by simpa using hreserved, hcontent⟩

/-- Fields have their slots in order. The imports of later fields leave earlier slots as they
are. -/
theorem slots_ok (hi : i.IsSound asked) {sourceName : String} {fields : List Descriptor}
    {slots : List Slot} (h : fields.mapM (Build.slot sourceName) i = .ok (slots, j)) :
    j.IsSound (asked ++ fields.flatMap fieldReferences) ∧ i.Extends j ∧
      List.Forall₂ (SlotOf j) fields slots := by
  induction fields generalizing i asked slots with
  | nil =>
    rw [List.mapM_nil] at h
    obtain ⟨rfl, rfl⟩ := pure_ok.mp h
    rw [List.flatMap_nil, List.append_nil]
    exact ⟨hi, .refl _, .nil⟩
  | cons d rest ih =>
    rw [List.mapM_cons] at h
    obtain ⟨s, i₁, hslot, h⟩ := bind_ok.mp h
    obtain ⟨slots', i₂, hrest, hpure⟩ := bind_ok.mp h
    obtain ⟨rfl, rfl⟩ := pure_ok.mp hpure
    obtain ⟨hsound₁, hext₁, hslot⟩ := slot_ok hi hslot
    obtain ⟨hsound₂, hext₂, hslots⟩ := ih hsound₁ hrest
    rw [List.flatMap_cons, ← List.append_assoc]
    exact ⟨hsound₂, hext₁.trans hext₂, .cons (hslot.mono hext₂) hslots⟩

end Build

structure StructModel.BuiltFrom (m : StructModel) (t : Target) (fields : List Descriptor)
    (i : Imports) : Prop where
  sound : i.IsSound (references t fields)
  typeName : m.typeName = t.typeName
  runtimeImports : m.runtimeImports = i.runtimeNames
  imports : m.imports = i.lines
  needsNumpy : m.needsNumpy = i.needsNumpy
  sourceExpr : i.Denotes (t.sourceModule, t.sourceQualname) m.sourceExpr
  slots : List.Forall₂ (SlotOf i) fields m.slots

theorem StructModel.builtFrom_of_module {t : Target} {fields : List Descriptor}
    {sourceExpr : String} {slots : List Slot} {i : Imports}
    (h : Build.module t fields {} = .ok ((sourceExpr, slots), i)) :
    StructModel.BuiltFrom ⟨t.typeName, t.sourcePath, sourceExpr, i.runtimeNames, i.lines,
      i.needsNumpy, slots⟩ t fields i := by
  obtain ⟨e, i₁, hexpr, hrest⟩ := Build.bind_ok.mp h
  obtain ⟨slots', i₂, hslots, hpair⟩ := Build.bind_ok.mp hrest
  obtain ⟨hpair, rfl⟩ := Build.pure_ok.mp hpair
  cases hpair
  obtain ⟨hsound₁, -, hdenotes⟩ :=
    Build.expression_ok (r := (t.sourceModule, t.sourceQualname)) Imports.isSound_empty hexpr
  obtain ⟨hsound₂, hext, hslots⟩ := Build.slots_ok hsound₁ hslots
  exact ⟨hsound₂, rfl, rfl, rfl, rfl, hdenotes.mono hext, hslots⟩

/-- Building a model gives what the imports of its types say. -/
theorem StructModel.build_ok {t : Target} {fields : List Descriptor} {m : StructModel}
    (h : StructModel.build t fields = .ok m) : ∃ i, m.BuiltFrom t fields i := by
  obtain ⟨⟨⟨sourceExpr, slots⟩, i⟩, hmodule, hpure⟩ := bind_eq_ok.mp h
  cases hpure
  exact ⟨i, builtFrom_of_module hmodule⟩

end StructForge.Struct

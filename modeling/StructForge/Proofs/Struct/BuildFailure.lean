import StructForge.Proofs.Schema.Extraction
import StructForge.Proofs.Struct.Building

/-! # Why a model is not built

Building a model goes through the source type and then through the fields, and stops at the first of
them that fails. A field fails because its name is reserved, because a type of it cannot be
imported, or because it is a built-in scalar without a known zero. The arguments of a classified
type always fit its category. -/

namespace StructForge.Struct

open Schema

namespace Build

section Steps

variable {α β : Type} {i : Imports} {f : ModelFault} {P : ModelFault → Prop}

theorem bind_error {x : Build α} {g : α → Build β} :
    (x >>= g) i = .error f ↔ x i = .error f ∨ ∃ a j, x i = .ok (a, j) ∧ g a j = .error f := by
  change (x i >>= fun p => g p.1 p.2) = _ ↔ _
  rw [bind_eq_error]
  constructor
  · rintro (hx | ⟨⟨a, j⟩, hx, hg⟩)
    · exact .inl hx
    · exact .inr ⟨a, j, hx, hg⟩
  · rintro (hx | ⟨a, j, hx, hg⟩)
    · exact .inl hx
    · exact .inr ⟨(a, j), hx, hg⟩

theorem not_pure_error {a : α} : ¬(pure a : Build α) i = .error f := by
  intro h
  cases h

theorem throw_error {g : ModelFault} : (throw g : Build α) i = .error f ↔ g = f := by
  change (Except.error g : Except ModelFault (α × Imports)) = .error f ↔ _
  rw [Except.error.injEq]

/-- A step for every member of a list fails at the first member for which it does. -/
theorem mapM_error {g : α → Build β} {l : List α} :
    l.mapM g i = .error f ↔ ∃ before a after bs j, l = before ++ a :: after ∧
      before.mapM g i = .ok (bs, j) ∧ g a j = .error f := by
  induction l generalizing i with
  | nil =>
    rw [List.mapM_nil]
    refine iff_of_false not_pure_error ?_
    rintro ⟨before, a, after, bs, j, hl, -⟩
    cases before <;> cases hl
  | cons x rest ih =>
    rw [List.mapM_cons, bind_error]
    constructor
    · rintro (hx | ⟨b, j, hx, hrest⟩)
      · exact ⟨[], x, rest, [], i, rfl, rfl, hx⟩
      · rcases bind_error.mp hrest with hrest | ⟨_, _, _, hpure⟩
        · obtain ⟨before, a, after, bs, j', rfl, hbefore, ha⟩ := ih.mp hrest
          refine ⟨x :: before, a, after, b :: bs, j', rfl, ?_, ha⟩
          rw [List.mapM_cons]
          exact bind_ok.mpr ⟨b, j, hx, bind_ok.mpr ⟨bs, j', hbefore, rfl⟩⟩
        · exact absurd hpure not_pure_error
    · rintro ⟨before, a, after, bs, j, hl, hbefore, ha⟩
      cases before with
      | nil =>
        obtain ⟨rfl, rfl⟩ := List.cons.inj hl
        obtain ⟨rfl, rfl⟩ := pure_ok.mp hbefore
        exact .inl ha
      | cons y before =>
        obtain ⟨rfl, rfl⟩ := List.cons.inj hl
        rw [List.mapM_cons] at hbefore
        obtain ⟨b, j₁, hx, hrest⟩ := bind_ok.mp hbefore
        obtain ⟨bs', j₂, htail, hpure⟩ := bind_ok.mp hrest
        obtain ⟨-, rfl⟩ := pure_ok.mp hpure
        exact .inr ⟨b, j₁, hx,
          bind_error.mpr (.inl (ih.mpr ⟨before, a, after, bs', j₂, rfl, htail, ha⟩))⟩

def FailsOnly (P : ModelFault → Prop) (x : Build α) : Prop := ∀ i f, x i = .error f → P f

theorem FailsOnly.bind {x : Build α} {g : α → Build β} (hx : FailsOnly P x)
    (hg : ∀ a, FailsOnly P (g a)) : FailsOnly P (x >>= g) := by
  intro i f h
  rcases bind_error.mp h with h | ⟨a, j, -, h⟩
  · exact hx i f h
  · exact hg a j f h

theorem failsOnly_pure {a : α} : FailsOnly P (pure a) := fun _ _ h => absurd h not_pure_error

theorem failsOnly_use {names : List RuntimeName} : FailsOnly P (Build.use names) := by
  intro i f h
  cases h

theorem failsOnly_throw {g : ModelFault} (hg : P g) : FailsOnly P (throw g : Build α) := by
  intro i f h
  obtain rfl := throw_error.mp h
  exact hg

end Steps

/-! ## The shapes of the steps -/

section Shapes

variable {d : Descriptor} {r key value : TypeRef}

theorem elementType_of_isVector (h : r.isVector = true) :
    ∃ names text, Build.elementType r = (Build.use names >>= fun _ => pure text) := by
  cases hshape : r.shape
  case vector3 => exact ⟨[.float3], "float3", by simp only [Build.elementType, hshape]⟩
  case vector2 => exact ⟨[.float2], "float2", by simp only [Build.elementType, hshape]⟩
  all_goals
    rw [TypeRef.isVector, hshape] at h
    cases h

theorem elementType_of_not_isVector (h : r.isVector = false) :
    Build.elementType r = Build.expression r.module r.qualname := by
  cases hshape : r.shape
  case vector3 | vector2 =>
    rw [TypeRef.isVector, hshape] at h
    cases h
  all_goals simp only [Build.elementType, hshape]

/-- The type of a key. The keys of an enum are stored as numbers. -/
def keyType (key : TypeRef) : Build String :=
  if key.isEnum then pure enumKeyName else Build.elementType key

theorem content_sequence {rest : List TypeRef} (hcategory : d.category = .sequence)
    (hargs : d.type.args = value :: rest) :
    Build.content d = Build.use [.allocator, .array] >>= fun _ =>
      Build.elementType value >>= fun e => pure (.array e (.ofType value)) := by
  simp only [Build.content, hcategory, hargs]

theorem content_mapping (hcategory : d.category = .mapping) (hargs : d.type.args = [key, value]) :
    Build.content d = Build.use [.allocator, .map] >>= fun _ =>
      keyType key >>= fun e => Build.elementType value >>= fun e' =>
        pure (.map e e' (if key.isEnum then .widen else .copy (.ofType key)) (.ofType value)) := by
  unfold keyType
  cases hkey : key.isEnum <;> simp only [Build.content, hcategory, hargs, hkey] <;> rfl

theorem content_scalar (hcategory : d.category = .scalar) :
    Build.content d = Build.expression d.type.module d.type.qualname >>= fun e =>
      match zeroOf d.type with
      | .ok zero => pure (.scalar e zero)
      | .error f => throw f := by
  unfold Build.content
  cases d with
  | mk name category elementTypes type =>
    cases hcategory
    rfl

theorem content_vector (hcategory : d.category = .vector3 ∨ d.category = .vector2) :
    ∃ names c, Build.content d = (Build.use names >>= fun _ => pure c) := by
  rcases hcategory with hcategory | hcategory
  · exact ⟨[.float3], .vector3, by simp only [Build.content, hcategory]⟩
  · exact ⟨[.float2], .vector2, by simp only [Build.content, hcategory]⟩

end Shapes

end Build

/-! ## The fields of a source type -/

def LacksZero (d : Descriptor) : Prop :=
  d.category = .scalar ∧ d.type.isEnum = false ∧ d.type.module = "builtins" ∧
    builtinZero? d.type.name = none

theorem zeroOf_error {r : TypeRef} {f : ModelFault} :
    zeroOf r = .error f ↔ r.isEnum = false ∧ r.module = "builtins" ∧ builtinZero? r.name = none ∧
      f = .noZero r.name := by
  unfold zeroOf
  cases r.isEnum with
  | true => simp
  | false =>
    by_cases hmodule : r.module = "builtins"
    · cases builtinZero? r.name <;> simp [hmodule, eq_comm]
    · simp [hmodule]

namespace Build

variable {d : Descriptor} {sourceName : String}

theorem failsOnly_expression {module qualname : String} :
    FailsOnly (fun f => ∃ g, f = .imports g) (Build.expression module qualname) := by
  intro i f h
  unfold Build.expression at h
  split at h
  · cases h
  · cases h
    exact ⟨_, rfl⟩

theorem failsOnly_elementType {r : TypeRef} :
    FailsOnly (fun f => ∃ g, f = .imports g) (Build.elementType r) := by
  cases hvector : r.isVector with
  | true =>
    obtain ⟨names, text, hr⟩ := elementType_of_isVector hvector
    rw [hr]
    exact failsOnly_use.bind fun _ => failsOnly_pure
  | false =>
    rw [elementType_of_not_isVector hvector]
    exact failsOnly_expression

/-- The slot of a retained field fails in three ways. -/
inductive SlotFault (sourceName : String) (d : Descriptor) : ModelFault → Prop
  | reserved (hname : d.name ∈ reservedMembers) :
      SlotFault sourceName d (.reserved sourceName d.name)
  | imports (g : ImportFault) : SlotFault sourceName d (.imports g)
  | zero (hzero : LacksZero d) : SlotFault sourceName d (.noZero d.type.name)

theorem failsOnly_content (hd : IsClassified d) :
    FailsOnly (SlotFault sourceName d) (Build.content d) := by
  have himports {α : Type} {x : Build α} (hx : FailsOnly (fun f => ∃ g, f = .imports g) x) :
      FailsOnly (SlotFault sourceName d) x := by
    intro i f h
    obtain ⟨g, rfl⟩ := hx i f h
    exact .imports g
  cases hd with
  | sequence hcategory hargs =>
    rw [content_sequence hcategory hargs]
    exact failsOnly_use.bind fun _ => (himports failsOnly_elementType).bind fun _ => failsOnly_pure
  | @mapping key value hcategory hargs =>
    have hkey : FailsOnly (SlotFault sourceName d) (keyType key) := by
      unfold keyType
      split
      · exact failsOnly_pure
      · exact himports failsOnly_elementType
    rw [content_mapping hcategory hargs]
    exact failsOnly_use.bind fun _ => hkey.bind fun _ =>
      (himports failsOnly_elementType).bind fun _ => failsOnly_pure
  | vector hcategory =>
    obtain ⟨names, c, hd⟩ := content_vector hcategory
    rw [hd]
    exact failsOnly_use.bind fun _ => failsOnly_pure
  | scalar hcategory =>
    rw [content_scalar hcategory]
    refine (himports failsOnly_expression).bind fun e => ?_
    cases hzero : zeroOf d.type with
    | ok zero => exact failsOnly_pure
    | error f =>
      obtain ⟨henum, hmodule, hname, rfl⟩ := zeroOf_error.mp hzero
      exact failsOnly_throw (.zero ⟨hcategory, henum, hmodule, hname⟩)

theorem failsOnly_slot (hd : IsClassified d) :
    FailsOnly (SlotFault sourceName d) (Build.slot sourceName d) := by
  unfold Build.slot
  split
  · rename_i hreserved
    exact failsOnly_throw (.reserved (by simpa using hreserved))
  · exact (failsOnly_content hd).bind fun _ => failsOnly_pure

/-- A retained field without a zero fails wherever it is met. -/
theorem slot_of_lacksZero {i : Imports} (hname : d.name ∉ reservedMembers) (hd : LacksZero d) :
    Build.slot sourceName d i = .error (.noZero d.type.name) := by
  obtain ⟨hcategory, henum, hmodule, hzero⟩ := hd
  have hslot : Build.slot sourceName d = Build.content d >>= fun c => pure ⟨d.name, c⟩ := by
    unfold Build.slot
    rw [if_neg (by simpa using hname)]
  have hexpr : Build.expression d.type.module d.type.qualname i = .ok (d.type.qualname, i) := by
    simp [Build.expression, Imports.expression, hmodule]
  rw [hslot, content_scalar hcategory, zeroOf_error.mpr ⟨henum, hmodule, hzero, rfl⟩]
  exact bind_error.mpr (.inl (bind_error.mpr (.inr ⟨_, _, hexpr, rfl⟩)))

end Build

namespace StructModel

variable {t : Target} {fields : List Descriptor} {f : ModelFault}

theorem build_eq_ok : (∃ m, StructModel.build t fields = .ok m) ↔
    ∃ e i slots j, Build.expression t.sourceModule t.sourceQualname {} = .ok (e, i) ∧
      fields.mapM (Build.slot t.sourceName) i = .ok (slots, j) := by
  constructor
  · rintro ⟨m, h⟩
    obtain ⟨⟨⟨e, slots⟩, j⟩, hmodule, -⟩ := bind_eq_ok.mp h
    obtain ⟨e', i, hexpr, hrest⟩ := Build.bind_ok.mp hmodule
    obtain ⟨slots', j', hslots, -⟩ := Build.bind_ok.mp hrest
    exact ⟨e', i, slots', j', hexpr, hslots⟩
  · rintro ⟨e, i, slots, j, hexpr, hslots⟩
    have hmodule : Build.module t fields {} = .ok ((e, slots), j) :=
      Build.bind_ok.mpr ⟨e, i, hexpr, Build.bind_ok.mpr ⟨slots, j, hslots, rfl⟩⟩
    exact ⟨_, bind_eq_ok.mpr ⟨_, hmodule, rfl⟩⟩

theorem build_eq_module_error :
    StructModel.build t fields = .error f ↔ Build.module t fields {} = .error f := by
  unfold StructModel.build
  rw [bind_eq_error]
  refine or_iff_left ?_
  rintro ⟨_, _, h⟩
  cases h

/-- Building stops at the source type or at the first field that fails. -/
theorem build_eq_error : StructModel.build t fields = .error f ↔
    Build.expression t.sourceModule t.sourceQualname {} = .error f ∨
    ∃ before d after e i slots j, fields = before ++ d :: after ∧
      Build.expression t.sourceModule t.sourceQualname {} = .ok (e, i) ∧
      before.mapM (Build.slot t.sourceName) i = .ok (slots, j) ∧
      Build.slot t.sourceName d j = .error f := by
  rw [build_eq_module_error]
  unfold Build.module
  rw [Build.bind_error]
  refine or_congr_right ⟨?_, ?_⟩
  · rintro ⟨e, i, hexpr, hrest⟩
    rcases Build.bind_error.mp hrest with hslots | ⟨_, _, _, hpure⟩
    · obtain ⟨before, d, after, slots, j, hfields, hbefore, hd⟩ := Build.mapM_error.mp hslots
      exact ⟨before, d, after, e, i, slots, j, hfields, hexpr, hbefore, hd⟩
    · exact absurd hpure Build.not_pure_error
  · rintro ⟨before, d, after, e, i, slots, j, hfields, hexpr, hbefore, hd⟩
    exact ⟨e, i, hexpr, Build.bind_error.mpr (.inl
      (Build.mapM_error.mpr ⟨before, d, after, slots, j, hfields, hbefore, hd⟩))⟩

/-- Building from retained fields fails because of an import, or because of a field. -/
theorem build_error_cases (hfields : ∀ d ∈ fields, IsClassified d)
    (h : StructModel.build t fields = .error f) :
    (∃ g, f = .imports g) ∨ ∃ d ∈ fields, Build.SlotFault t.sourceName d f := by
  rcases build_eq_error.mp h with hexpr | ⟨before, d, after, e, i, slots, j, rfl, -, -, hd⟩
  · exact .inl (Build.failsOnly_expression _ _ hexpr)
  · have hmem : d ∈ before ++ d :: after := List.mem_append_right _ List.mem_cons_self
    exact .inr ⟨d, hmem, Build.failsOnly_slot (hfields d hmem) _ _ hd⟩

/-- Whether a field is the first one for which building fails, and fails for want of a zero. -/
def MissesZero (t : Target) (fields : List Descriptor) (d : Descriptor) : Prop :=
  ∃ before after, fields = before ++ d :: after ∧ (∃ m, StructModel.build t before = .ok m) ∧
    d.name ∉ reservedMembers ∧ LacksZero d

/-- A missing zero is reported exactly if the first field that fails lacks it. -/
theorem build_eq_noZero (hfields : ∀ d ∈ fields, IsClassified d) {name : String} :
    StructModel.build t fields = .error (.noZero name) ↔
      ∃ d, MissesZero t fields d ∧ d.type.name = name := by
  constructor
  · intro h
    rcases build_eq_error.mp h with hexpr | ⟨before, d, after, e, i, slots, j, rfl, hexpr, hb, hd⟩
    · obtain ⟨g, hg⟩ := Build.failsOnly_expression _ _ hexpr
      cases hg
    · have hname : d.name ∉ reservedMembers := by
        intro hname
        unfold Build.slot at hd
        rw [if_pos (by simpa using hname)] at hd
        cases Build.throw_error.mp hd
      have hmem : d ∈ before ++ d :: after := List.mem_append_right _ List.mem_cons_self
      cases Build.failsOnly_slot (hfields d hmem) _ _ hd with
      | zero hzero =>
        exact ⟨d, ⟨before, after, rfl, build_eq_ok.mpr ⟨e, i, slots, j, hexpr, hb⟩, hname, hzero⟩,
          rfl⟩
  · rintro ⟨d, ⟨before, after, hsplit, hbefore, hname, hd⟩, rfl⟩
    obtain ⟨e, i, slots, j, hexpr, hslots⟩ := build_eq_ok.mp hbefore
    exact build_eq_error.mpr (.inr ⟨before, d, after, e, i, slots, j, hsplit, hexpr, hslots,
      Build.slot_of_lacksZero hname hd⟩)

end StructModel

end StructForge.Struct

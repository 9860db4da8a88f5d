import StructForge.Proofs.Struct.Release
import StructForge.Proofs.Struct.SequenceConversion

/-! # The life of a struct

A struct is made from a source object or by default. Then it is released, used in a block, or its
containers are called, in any order. None of this makes a release fail. -/

namespace StructForge.Struct

open Live Container Schema

/-! ## Steps -/

inductive ContainerCall where
  | array (call : ArrayCall)
  | map (call : MapCall Value)

/-- What a content answers to a call, and what becomes of it. A content without such a call refuses
it. -/
def Part.call (p : Part) (call : ContainerCall) : Except Fault (Part × Value) :=
  match p, call with
  | .array a, .array call => do
    let (a, v) ← a.run call
    return (.array a, v)
  | .map m, .map call => do
    let (m, reply) ← m.run call
    return (.map m, reply.toValue)
  | _, _ => .error ⟨.missingAttribute, "no such member"⟩

inductive LifeStep where
  | dispose
  | enter
  | leave
  | access (slot : String) (call : ContainerCall)

def LifeStep.run : LifeStep → PairWork Value
  | .dispose => PairWork.run .dispose
  | .enter => PairWork.run .enter
  | .leave => PairWork.run .leave
  | .access slot call => do
    let (p, v) ← PairWork.outcome ((← PairWork.getPart slot).call call)
    PairWork.putPart slot p
    return v

/-- A pairing after some steps. A step that fails keeps what it did, and the next one is made. -/
def Pairing.after (s : Pairing) (steps : List LifeStep) : Pairing :=
  steps.foldl (fun s step => (step.run s).2) s

theorem Part.evolves_of_call {p p' : Part} {call : ContainerCall} {v : Value}
    (h : p.call call = .ok (p', v)) : p.Evolves p' := by
  cases p with
  | plain => cases h
  | array a =>
    cases call with
    | map => cases h
    | array call =>
      obtain ⟨⟨a', w⟩, hrun, hpure⟩ := bind_eq_ok.mp h
      cases hpure
      exact .array (FixedArray.isCreated_of_run hrun)
  | map m =>
    cases call with
    | array => cases h
    | map call =>
      obtain ⟨⟨m', w⟩, hrun, hpure⟩ := bind_eq_ok.mp h
      cases hpure
      exact .map (GrowingMap.isCreated_of_run hrun)

/-! ## What steps preserve -/

def Pairing.Reads (s : Pairing) (name : String) (p : Part) : Prop :=
  PairWork.getPart name s = (.ok p, s)

/-- A pairing whose struct has for each field what its category asks for, and releases the
containers among it. -/
structure Fits (fields : List Descriptor) (s : Pairing) : Prop where
  mem_releases : ∀ name, name ∈ s.model.releases.map s.model.read ↔
    ∃ d ∈ fields, s.model.read d.name = name ∧ (d.category = .sequence ∨ d.category = .mapping)
  made : ∃ r, s.record = some r
  reads : ∀ d ∈ fields, ∃ p, s.Reads (s.model.read d.name) p ∧ Holds d.category p

structure Pairing.Evolves (s s' : Pairing) : Prop where
  model : s'.model = s.model
  made : ∀ r, s.record = some r → ∃ r', s'.record = some r'
  reads : ∀ name p, s.Reads name p → ∃ p', s'.Reads name p' ∧ p.Evolves p'

section Steps

variable {fields : List Descriptor} {s s' s'' : Pairing} {r r' : Record} {name : String}
  {p p' : Part}

theorem Pairing.reads_iff (hr : s.record = some r) :
    s.Reads name p ↔ r.parts.lookup name = some p := by
  unfold Reads
  cases hp : r.parts.lookup name with
  | none =>
    rw [PairWork.getPart_run_none hr hp]
    exact iff_of_false nofun nofun
  | some q =>
    rw [PairWork.getPart_run hr hp, Option.some.injEq]
    constructor
    · intro h
      cases h
      rfl
    · rintro rfl
      rfl

theorem Pairing.Reads.eq (h : s.Reads name p) (h' : s.Reads name p') : p = p' :=
  Except.ok.inj (congrArg Prod.fst (h.symm.trans h'))

theorem Pairing.Evolves.refl (s : Pairing) : s.Evolves s :=
  ⟨rfl, fun r h => ⟨r, h⟩, fun _ p h => ⟨p, h, .refl p⟩⟩

theorem Pairing.Evolves.trans (h : s.Evolves s') (h' : s'.Evolves s'') : s.Evolves s'' where
  model := h'.model.trans h.model
  made r hr := by
    obtain ⟨r', hr'⟩ := h.made r hr
    exact h'.made r' hr'
  reads name p hp := by
    obtain ⟨p', hp', hevolves⟩ := h.reads name p hp
    obtain ⟨p'', hp'', hevolves'⟩ := h'.reads name p' hp'
    exact ⟨p'', hp'', hevolves.trans hevolves'⟩

theorem Pairing.evolves_of_record (hr : s.record = some r) (h : r.Evolves r') :
    s.Evolves { s with record := some r' } where
  model := rfl
  made _ _ := ⟨r', rfl⟩
  reads name p hp := by
    obtain ⟨p', hp', hevolves⟩ := h name p ((reads_iff hr).mp hp)
    exact ⟨p', (reads_iff rfl).mpr hp', hevolves⟩

theorem Fits.evolves (h : Fits fields s) (hevolves : s.Evolves s') : Fits fields s' where
  mem_releases := by
    rw [hevolves.model]
    exact h.mem_releases
  made := by
    obtain ⟨r, hr⟩ := h.made
    exact hevolves.made r hr
  reads d hd := by
    obtain ⟨p, hp, hholds⟩ := h.reads d hd
    obtain ⟨p', hp', hpart⟩ := hevolves.reads _ p hp
    exact ⟨p', by rw [hevolves.model]; exact hp', hholds.evolves hpart⟩

theorem PairWork.dispose_run (hr : s.record = some r)
    (h : disposeAll (s.model.releases.map s.model.read) s = (.ok (), s')) :
    run .dispose s = (.ok .none, s') ∧ run .leave s = (.ok .none, s') := by
  constructor <;>
  · rw [run, bind_run, getRecord_run hr]
    simp only [get_bind_run]
    rw [bind_run, h]
    rfl

/-- A release succeeds, and so does the end of a block. It leaves no container with storage, and
nothing to another release. -/
theorem Fits.dispose_run (h : Fits fields s) :
    ∃ s', s.Evolves s' ∧ PairWork.run .dispose s = (.ok .none, s') ∧
      PairWork.run .leave s = (.ok .none, s') ∧ PairWork.run .dispose s' = (.ok .none, s') ∧
      ∀ d ∈ fields, d.category = .sequence ∨ d.category = .mapping →
        ∃ p, s'.Reads (s.model.read d.name) p ∧ p.IsReleased := by
  obtain ⟨r, hr⟩ := h.made
  have hcontainers : ∀ name ∈ s.model.releases.map s.model.read,
      ∃ p, r.parts.lookup name = some p ∧ p.IsContainer := by
    intro name hname
    obtain ⟨d, hd, rfl, hcategory⟩ := (h.mem_releases name).mp hname
    obtain ⟨p, hp, hholds⟩ := h.reads d hd
    exact ⟨p, (Pairing.reads_iff hr).mp hp, hholds.isContainer hcategory⟩
  obtain ⟨r', hrun, hevolves, hreleased⟩ := PairWork.disposeAll_run hr hcontainers
  obtain ⟨hdispose, hleave⟩ := PairWork.dispose_run hr hrun
  set s' : Pairing := { s with record := some r' }
  have hr' : s'.record = some r' := rfl
  have hagain := PairWork.dispose_run hr' (PairWork.disposeAll_of_released hr' hreleased)
  refine ⟨s', Pairing.evolves_of_record hr hevolves, hdispose, hleave, hagain.1, ?_⟩
  intro d hd hcategory
  obtain ⟨p, hp, hpreleased⟩ := hreleased _ ((h.mem_releases _).mpr ⟨d, hd, rfl, hcategory⟩)
  exact ⟨p, (Pairing.reads_iff hr').mpr hp, hpreleased⟩

theorem Fits.evolves_run (h : Fits fields s) (step : LifeStep) : s.Evolves (step.run s).2 := by
  obtain ⟨r, hr⟩ := h.made
  cases step with
  | dispose =>
    obtain ⟨s', hevolves, hrun, -⟩ := h.dispose_run
    rw [LifeStep.run, hrun]
    exact hevolves
  | leave =>
    obtain ⟨s', hevolves, -, hrun, -⟩ := h.dispose_run
    rw [LifeStep.run, hrun]
    exact hevolves
  | enter =>
    have hrun : PairWork.run .enter s = (.ok (.bool true), s) := by
      rw [PairWork.run, bind_run, PairWork.getRecord_run hr]
      rfl
    rw [LifeStep.run, hrun]
    exact .refl s
  | access slot call =>
    rw [LifeStep.run, bind_run]
    cases hp : r.parts.lookup slot with
    | none =>
      rw [PairWork.getPart_run_none hr hp]
      exact .refl s
    | some p =>
      rw [PairWork.getPart_run hr hp]
      cases hcall : p.call call with
      | error f =>
        simp only [hcall]
        exact .refl s
      | ok answer =>
        obtain ⟨p', v⟩ := answer
        simp only [hcall]
        change s.Evolves ((PairWork.putPart slot p' >>= fun _ => pure v) s).2
        rw [bind_run, PairWork.putPart_run hr]
        exact Pairing.evolves_of_record hr (Record.evolves_put hp (Part.evolves_of_call hcall))

theorem Fits.evolves_after (h : Fits fields s) (steps : List LifeStep) :
    s.Evolves (s.after steps) := by
  induction steps generalizing s with
  | nil => exact .refl s
  | cons step rest ih =>
    have hstep := h.evolves_run step
    exact hstep.trans (ih (h.evolves hstep))

end Steps

/-! ## Making -/

def StructModel.KeepsContainers (m : StructModel) : Prop :=
  ∀ n ∈ m.runtimeImports, n = .array ∨ n = .map → m.meaning (.body []) n.text = .library n

instance (m : StructModel) : Decidable m.KeepsContainers :=
  inferInstanceAs (Decidable (∀ n ∈ m.runtimeImports, _))

def StructModel.AreAlike (m : StructModel) (fields : List Descriptor) : Prop :=
  ∀ d ∈ fields, ∀ d' ∈ fields, m.read d.name = m.read d'.name → d.category = d'.category

section Making

variable {scope : Scope} {d : Descriptor} {c : Content} {i : Imports} {part : Part}
  {source : Except Fault Held} {give : String → Except Fault Unit} {e e' : String} {length : Except Fault Nat}

theorem Scope.array_eq_inl (h : scope.find RuntimeName.array.text = .hint (.cls .array))
    {x : FixedArray ⊕ Value} (hx : scope.array e length = .ok x) : ∃ a, x = .inl a := by
  obtain ⟨v, -, hx⟩ := bind_eq_ok.mp hx
  obtain ⟨n, -, hx⟩ := bind_eq_ok.mp hx
  obtain ⟨given, -, hx⟩ := bind_eq_ok.mp hx
  simp only [h] at hx
  obtain ⟨a, -, hpure⟩ := bind_eq_ok.mp hx
  cases hpure
  exact ⟨a, rfl⟩

theorem Scope.map_eq_inl (h : scope.find RuntimeName.map.text = .hint (.cls .map))
    {x : GrowingMap Value ⊕ Value} (hx : scope.map e e' length = .ok x) : ∃ m, x = .inl m := by
  obtain ⟨k, -, hx⟩ := bind_eq_ok.mp hx
  obtain ⟨v, -, hx⟩ := bind_eq_ok.mp hx
  obtain ⟨n, -, hx⟩ := bind_eq_ok.mp hx
  obtain ⟨given, -, hx⟩ := bind_eq_ok.mp hx
  simp only [h] at hx
  obtain ⟨m, -, hpure⟩ := bind_eq_ok.mp hx
  cases hpure
  exact ⟨m, rfl⟩

theorem Scope.unallocatedArray_eq_inl
    (h : scope.find RuntimeName.array.text = .hint (.cls .array))
    {x : FixedArray ⊕ Value} (hx : scope.unallocatedArray e = .ok x) : ∃ a, x = .inl a := by
  simp only [Scope.unallocatedArray, h] at hx
  obtain ⟨v, -, hpure⟩ := bind_eq_ok.mp hx
  cases hpure
  exact ⟨_, rfl⟩

theorem Scope.unallocatedMap_eq_inl (h : scope.find RuntimeName.map.text = .hint (.cls .map))
    {x : GrowingMap Value ⊕ Value} (hx : scope.unallocatedMap e e' = .ok x) : ∃ m, x = .inl m := by
  simp only [Scope.unallocatedMap, h] at hx
  obtain ⟨k, -, hx⟩ := bind_eq_ok.mp hx
  obtain ⟨v, -, hpure⟩ := bind_eq_ok.mp hx
  cases hpure
  exact ⟨_, rfl⟩

theorem ContentOf.holds_of_convert (hc : ContentOf i d c)
    (harray : .array ∈ i.runtime → scope.find RuntimeName.array.text = .hint (.cls .array))
    (hmap : .map ∈ i.runtime → scope.find RuntimeName.map.text = .hint (.cls .map))
    (h : c.convert scope source give = .ok part) : Holds d.category part := by
  cases hc with
  | sequence hcategory _ _ hbound =>
    obtain ⟨x, hx, h⟩ := bind_eq_ok.mp h
    obtain ⟨a, rfl⟩ := Scope.array_eq_inl (harray hbound) hx
    obtain ⟨_, -, h⟩ := bind_eq_ok.mp h
    obtain ⟨v, -, h⟩ := bind_eq_ok.mp h
    obtain ⟨n, -, h⟩ := bind_eq_ok.mp h
    obtain ⟨a', -, hpure⟩ := bind_eq_ok.mp h
    cases hpure
    exact .sequence hcategory
  | widened hcategory _ _ hbound | mapping hcategory _ _ hbound =>
    obtain ⟨x, hx, h⟩ := bind_eq_ok.mp h
    obtain ⟨m, rfl⟩ := Scope.map_eq_inl (hmap hbound) hx
    obtain ⟨_, -, h⟩ := bind_eq_ok.mp h
    obtain ⟨v, -, h⟩ := bind_eq_ok.mp h
    obtain ⟨es, -, h⟩ := bind_eq_ok.mp h
    obtain ⟨m', -, hpure⟩ := bind_eq_ok.mp h
    cases hpure
    exact .mapping hcategory
  | vector3 hcategory | vector2 hcategory =>
    obtain ⟨held, -, h⟩ := bind_eq_ok.mp h
    obtain ⟨v, -, h⟩ := bind_eq_ok.mp h
    obtain ⟨_, -, hpure⟩ := bind_eq_ok.mp h
    cases hpure
    exact .plain (by simp [hcategory]) (by simp [hcategory])
  | scalar hcategory =>
    obtain ⟨held, -, h⟩ := bind_eq_ok.mp h
    obtain ⟨_, -, hpure⟩ := bind_eq_ok.mp h
    cases hpure
    exact .plain (by simp [hcategory]) (by simp [hcategory])

/-- A slot starts by default with what the category of its field asks for. -/
theorem ContentOf.holds_of_zero (hc : ContentOf i d c)
    (harray : .array ∈ i.runtime → scope.find RuntimeName.array.text = .hint (.cls .array))
    (hmap : .map ∈ i.runtime → scope.find RuntimeName.map.text = .hint (.cls .map))
    (h : c.zero scope = .ok part) : Holds d.category part := by
  cases hc with
  | sequence hcategory _ _ hbound =>
    obtain ⟨x, hx, h⟩ := bind_eq_ok.mp h
    obtain ⟨a, rfl⟩ := Scope.unallocatedArray_eq_inl (harray hbound) hx
    cases h
    exact .sequence hcategory
  | widened hcategory _ _ hbound | mapping hcategory _ _ hbound =>
    obtain ⟨x, hx, h⟩ := bind_eq_ok.mp h
    obtain ⟨m, rfl⟩ := Scope.unallocatedMap_eq_inl (hmap hbound) hx
    cases h
    exact .mapping hcategory
  | vector3 hcategory | vector2 hcategory | scalar hcategory =>
    obtain ⟨v, -, hpure⟩ := bind_eq_ok.mp h
    cases hpure
    exact .plain (by simp [hcategory]) (by simp [hcategory])

end Making

theorem ContentOf.isContainer_iff {i : Imports} {d : Descriptor} {c : Content}
    (h : ContentOf i d c) :
    c.isContainer = true ↔ d.category = .sequence ∨ d.category = .mapping := by
  cases h with
  | sequence hcategory => simp [Content.isContainer, hcategory]
  | widened hcategory | mapping hcategory => simp [Content.isContainer, hcategory]
  | vector3 hcategory | vector2 hcategory | scalar hcategory =>
    simp [Content.isContainer, hcategory]

namespace StructModel.BuiltFrom

variable {m : StructModel} {t : Target} {fields : List Descriptor} {i : Imports}

theorem mem_releases (h : m.BuiltFrom t fields i) (name : String) :
    name ∈ m.releases ↔
      ∃ d ∈ fields, d.name = name ∧ (d.category = .sequence ∨ d.category = .mapping) := by
  unfold releases
  rw [List.mem_map]
  constructor
  · rintro ⟨slot, hslot, rfl⟩
    obtain ⟨hslot, hcontainer⟩ := List.mem_filter.mp hslot
    obtain ⟨d, hpair⟩ := exists_mem_zip_right h.slots hslot
    have hof := List.forall₂_zip h.slots hpair
    exact ⟨d, (List.of_mem_zip hpair).1, hof.name.symm, hof.content.isContainer_iff.mp hcontainer⟩
  · rintro ⟨d, hd, rfl, hcategory⟩
    obtain ⟨slot, hpair⟩ := exists_mem_zip_left h.slots hd
    have hof := List.forall₂_zip h.slots hpair
    exact ⟨slot, List.mem_filter.mpr
      ⟨(List.of_mem_zip hpair).2, hof.content.isContainer_iff.mpr hcategory⟩, hof.name⟩

theorem mem_map_releases (h : m.BuiltFrom t fields i) (name : String) :
    name ∈ m.releases.map m.read ↔
      ∃ d ∈ fields, m.read d.name = name ∧ (d.category = .sequence ∨ d.category = .mapping) := by
  rw [List.mem_map]
  constructor
  · rintro ⟨_, hreleased, rfl⟩
    obtain ⟨d, hd, rfl, hcategory⟩ := (h.mem_releases _).mp hreleased
    exact ⟨d, hd, rfl, hcategory⟩
  · rintro ⟨d, hd, rfl, hcategory⟩
    exact ⟨d.name, (h.mem_releases _).mpr ⟨d, hd, rfl, hcategory⟩, rfl⟩

theorem holds_of_mapM (h : m.BuiltFrom t fields i) (halike : m.AreAlike fields)
    {give : Slot → Except Fault (String × Part)} {entries : List (String × Part)}
    (hgive : ∀ d slot entry, ContentOf i d slot.content → give slot = .ok entry →
      entry.1 = m.read slot.name ∧ Holds d.category entry.2)
    (hentries : m.slots.mapM give = .ok entries) :
    ∀ d ∈ fields, ∃ p, (Record.ofParts m entries).part (m.read d.name) = .ok p ∧
      Holds d.category p := by
  have hname (slot : Slot) (hslot : slot ∈ m.slots) (entry : String × Part)
      (hentry : give slot = .ok entry) : entry.1 = m.read slot.name := by
    obtain ⟨d, hpair⟩ := exists_mem_zip_right h.slots hslot
    exact (hgive d slot entry (List.forall₂_zip h.slots hpair).content hentry).1
  intro d hd
  obtain ⟨slot, hpair⟩ := exists_mem_zip_left h.slots hd
  have hslot : ∃ slot ∈ m.slots, m.read slot.name = m.read d.name :=
    ⟨slot, (List.of_mem_zip hpair).2, by rw [(List.forall₂_zip h.slots hpair).name]⟩
  obtain ⟨slot', hmem', hname', part, hpart, hread⟩ := Record.part_of_mapM hentries hname hslot
  obtain ⟨d', hpair'⟩ := exists_mem_zip_right h.slots hmem'
  have hof := List.forall₂_zip h.slots hpair'
  have hcategory := halike d' (List.of_mem_zip hpair').1 d hd (hof.name ▸ hname')
  exact ⟨part, hread, hcategory ▸ (hgive d' slot' _ hof.content hpart).2⟩

section Made

variable {r : Registry} {scope : Scope} {record : Record} (h : m.BuiltFrom t fields i)
  (hload : Scope.load r m = .ok scope) (halike : m.AreAlike fields) (hkeeps : m.KeepsContainers)

include h hload hkeeps

theorem find_containers :
    (.array ∈ i.runtime → scope.find RuntimeName.array.text = .hint (.cls .array)) ∧
      (.map ∈ i.runtime → scope.find RuntimeName.map.text = .hint (.cls .map)) :=
  ⟨fun hbound => Scope.find_library hload
      (hkeeps _ (h.mem_runtimeImports.mpr hbound) (.inl rfl)) rfl,
    fun hbound => Scope.find_library hload
      (hkeeps _ (h.mem_runtimeImports.mpr hbound) (.inr rfl)) rfl⟩

include halike

theorem holds_of_convert {source : String → Except Fault Held}
    (hconvert : Record.convert m scope source = .ok record) :
    ∀ d ∈ fields, ∃ p, record.part (m.read d.name) = .ok p ∧ Holds d.category p := by
  obtain ⟨harray, hmap⟩ := h.find_containers hload hkeeps
  obtain ⟨entries, hentries, hpure⟩ := bind_eq_ok.mp hconvert
  cases hpure
  refine h.holds_of_mapM halike (fun d slot entry hc hentry => ?_) hentries
  obtain ⟨hname, hpart⟩ := Record.convertSlot_ok.mp hentry
  exact ⟨hname, hc.holds_of_convert harray hmap hpart⟩

theorem holds_of_default (hdefault : Record.default m scope = .ok record) :
    ∀ d ∈ fields, ∃ p, record.part (m.read d.name) = .ok p ∧ Holds d.category p := by
  obtain ⟨harray, hmap⟩ := h.find_containers hload hkeeps
  obtain ⟨entries, hentries, hpure⟩ := bind_eq_ok.mp hdefault
  cases hpure
  refine h.holds_of_mapM halike (fun d slot entry hc hentry => ?_) hentries
  obtain ⟨hname, hpart, -⟩ := Record.zeroSlot_ok.mp hentry
  exact ⟨hname, hc.holds_of_zero harray hmap hpart⟩

end Made

end StructModel.BuiltFrom

/-- A pairing in which a struct has just been made, from a source object or by default. -/
inductive Pairing.Makes (p : Pairing) : Pairing → Prop
  | convert {attributes : List (String × Value)} {v : Value} {s : Pairing}
      (h : PairWork.run (.convert attributes) p = (.ok v, s)) : Makes p s
  | default {v : Value} {s : Pairing} (h : PairWork.run .default p = (.ok v, s)) : Makes p s

theorem PairWork.setAttributes_run (attributes : List (String × Value)) (p : Pairing) :
    ∃ s, setAttributes attributes p = (.ok (), s) ∧ s.model = p.model ∧ s.scope = p.scope := by
  induction attributes generalizing p with
  | nil => exact ⟨p, rfl, rfl, rfl⟩
  | cons entry rest ih =>
    obtain ⟨name, v⟩ := entry
    obtain ⟨s, hrun, hmodel, hscope⟩ := ih { p with
      cells := p.cells + 1
      attributes := assign name ⟨p.cells + 1, v⟩ p.attributes }
    exact ⟨s, hrun, hmodel, hscope⟩

theorem Pairing.Makes.record {p s : Pairing} (h : p.Makes s) :
    s.model = p.model ∧ ∃ r, s.record = some r ∧
      ((∃ source, Record.convert p.model p.scope source = .ok r) ∨
        Record.default p.model p.scope = .ok r) := by
  cases h with
  | @convert attributes v s h =>
    obtain ⟨t, hset, hmodel, hscope⟩ := PairWork.setAttributes_run attributes p
    rw [PairWork.run, bind_run, hset] at h
    simp only [get_bind_run] at h
    cases hconvert : Record.convert t.model t.scope t.attribute with
    | error f =>
      rw [hconvert] at h
      cases h
    | ok r =>
      rw [hconvert] at h
      cases h
      rw [hmodel, hscope] at hconvert
      exact ⟨hmodel, r, rfl, .inl ⟨_, hconvert⟩⟩
  | default h =>
    rw [PairWork.run, get_bind_run] at h
    cases hdefault : Record.default p.model p.scope with
    | error f =>
      rw [hdefault] at h
      cases h
    | ok r =>
      rw [hdefault] at h
      cases h
      exact ⟨rfl, r, rfl, .inr rfl⟩

theorem Pairing.Makes.fits {r : Registry} {t : Target} {fields : List Descriptor} {p s : Pairing}
    (hbuild : StructModel.build t fields = .ok p.model) (hload : Scope.load r p.model = .ok p.scope)
    (halike : p.model.AreAlike fields) (hkeeps : p.model.KeepsContainers) (h : p.Makes s) :
    Fits fields s := by
  obtain ⟨i, hbuilt⟩ := StructModel.build_ok hbuild
  obtain ⟨hmodel, record, hrecord, hmade⟩ := h.record
  have hholds : ∀ d ∈ fields, ∃ q, record.part (p.model.read d.name) = .ok q ∧
      Holds d.category q := by
    rcases hmade with ⟨source, hconvert⟩ | hdefault
    · exact hbuilt.holds_of_convert hload halike hkeeps hconvert
    · exact hbuilt.holds_of_default hload halike hkeeps hdefault
  refine ⟨by rw [hmodel]; exact hbuilt.mem_map_releases, ⟨record, hrecord⟩, fun d hd => ?_⟩
  obtain ⟨q, hq, hd'⟩ := hholds d hd
  rw [hmodel]
  exact ⟨q, (Pairing.reads_iff hrecord).mpr (Record.part_eq_ok.mp hq), hd'⟩

/-- Whatever was done to a struct and its containers since it was made, a release succeeds, as does
the end of a block. From then on its containers have no storage and refuse what needs some, another
release does nothing, and the other contents are those that were made. -/
theorem dispose_releases {r : Registry} {t : Target} {fields : List Descriptor} {p s : Pairing}
    (hbuild : StructModel.build t fields = .ok p.model) (hload : Scope.load r p.model = .ok p.scope)
    (halike : p.model.AreAlike fields) (hkeeps : p.model.KeepsContainers) (hmakes : p.Makes s)
    (steps later : List LifeStep) :
    ∃ s', PairWork.run .dispose (s.after steps) = (.ok .none, s') ∧
      PairWork.run .leave (s.after steps) = (.ok .none, s') ∧
      PairWork.run .dispose s' = (.ok .none, s') ∧ ∀ d ∈ fields,
        (d.category = .sequence → ∃ a, (s'.after later).Reads (p.model.read d.name) (.array a) ∧
          a.isCreated = false ∧ ∀ call, call.isAccess = true →
            a.run call = .error (disposedFault "NativeArray")) ∧
        (d.category = .mapping → ∃ m, (s'.after later).Reads (p.model.read d.name) (.map m) ∧
          m.isCreated = false ∧ ∀ call, call.isAccess = true →
            m.run call = .error (disposedFault "NativeHashMap")) ∧
        (d.category ≠ .sequence → d.category ≠ .mapping → ∃ v,
          s.Reads (p.model.read d.name) (.plain v) ∧
          (s'.after later).Reads (p.model.read d.name) (.plain v)) := by
  have hfits := hmakes.fits hbuild hload halike hkeeps
  have hbefore := hfits.evolves_after steps
  obtain ⟨s', hrelease, hdispose, hleave, hagain, hreleased⟩ := (hfits.evolves hbefore).dispose_run
  have hfits' := (hfits.evolves hbefore).evolves hrelease
  have hafter := hfits'.evolves_after later
  refine ⟨s', hdispose, hleave, hagain, fun d hd => ?_⟩
  obtain ⟨p₀, hp₀, hholds⟩ := hfits.reads d hd
  rw [hmakes.record.1] at hp₀
  obtain ⟨p₁, hp₁, hevolves⟩ := ((hbefore.trans hrelease).trans hafter).reads _ p₀ hp₀
  have hstays (hcategory : d.category = .sequence ∨ d.category = .mapping) : p₁.IsReleased := by
    obtain ⟨p₂, hp₂, hp₂released⟩ := hreleased d hd hcategory
    rw [hbefore.model, hmakes.record.1] at hp₂
    obtain ⟨p₃, hp₃, hlast⟩ := hafter.reads _ p₂ hp₂
    exact hp₁.eq hp₃ ▸ hp₂released.evolves hlast
  cases hholds.evolves hevolves with
  | @sequence a hcategory =>
    refine ⟨fun _ => ?_, by simp [hcategory], by simp [hcategory]⟩
    cases hstays (.inl hcategory) with
    | array hcreated => exact ⟨a, hp₁, hcreated, fun call => FixedArray.run_of_released hcreated⟩
  | @mapping m hcategory =>
    refine ⟨by simp [hcategory], fun _ => ?_, by simp [hcategory]⟩
    cases hstays (.inr hcategory) with
    | map hcreated => exact ⟨m, hp₁, hcreated, fun call => GrowingMap.run_of_released hcreated⟩
  | @plain v hsequence hmapping =>
    refine ⟨fun h => absurd h hsequence, fun h => absurd h hmapping, fun _ _ => ⟨v, ?_, hp₁⟩⟩
    cases hevolves with
    | plain => exact hp₀

theorem areAlike_of_fields {r : Registry} {n : Naming} {c : ClassRef} {m : StructModel} {t : Target}
    {fields : List Descriptor} (h : Pairing.fields r n (.hint (.cls c)) = .ok (t, fields))
    (hread : ∀ d ∈ fields, m.read d.name = d.name) : m.AreAlike fields := by
  obtain ⟨hints, -, rfl⟩ := Pairing.fields_ok h
  intro d hd d' hd' hname
  rw [hread d hd, hread d' hd'] at hname
  obtain ⟨f, hf, hclassify, hd⟩ := mem_extract.mp hd
  obtain ⟨f', hf', hclassify', hd'⟩ := mem_extract.mp hd'
  have hnames : f.name = f'.name := by
    rw [hd, hd'] at hname
    exact hname
  obtain ⟨-, -, hint, hlookup, htype⟩ := mem_publicFields.mp hf
  obtain ⟨-, -, hint', hlookup', htype'⟩ := mem_publicFields.mp hf'
  rw [hnames, hlookup', Option.some.injEq] at hlookup
  rw [htype, ← hlookup, ← htype', hclassify'] at hclassify
  exact (Option.some.inj hclassify).symm

/-- An array that is released directly, and again at the end of a block, stays released. -/
theorem dispose_releases_tally :
    ∃ p s s' a, Pairing.start tallyRegistry {} (.hint (.cls tally)) = .ok (some p) ∧ p.Makes s ∧
      PairWork.run .dispose (s.after [.access "counts" (.array .dispose), .leave]) =
        (.ok .none, s') ∧
      s'.Reads "counts" (.array a) ∧ a.isCreated = false ∧
      a.run (.get (.int 0)) = .error (disposedFault "NativeArray") := by
  obtain ⟨p, hstart, hkeeps, hconvert⟩ := Pairing.exists_start_of_any (r := tallyRegistry) (n := {})
    (v := .hint (.cls tally)) (P := fun p => p.model.KeepsContainers ∧
      (PairWork.run (.convert [("counts", .list [.int 7])]) p).1.toOption.isSome = true)
    (by decide +kernel)
  obtain ⟨-, hload, t, fields, hfields, hbuild⟩ := Pairing.start_ok hstart
  have hcounts : (∀ d ∈ fields, Text.isPlain d.name = true) ∧
      ∃ d ∈ fields, d.name = "counts" ∧ d.category = .sequence := by
    obtain ⟨answer, hanswer, hany⟩ := exists_of_any
      (x := Pairing.fields tallyRegistry {} (.hint (.cls tally)))
      (p := fun answer => (∀ d ∈ answer.2, Text.isPlain d.name = true) ∧
        ∃ d ∈ answer.2, d.name = "counts" ∧ d.category = .sequence)
      (by decide +kernel)
    rw [hfields] at hanswer
    cases hanswer
    exact hany
  obtain ⟨hplain, d, hd, hname, hcategory⟩ := hcounts
  have hread : ∀ d ∈ fields, p.model.read d.name = d.name := fun d hd =>
    Text.readIn_of_isPlain (hplain d hd) _
  rcases hrun : PairWork.run (.convert [("counts", .list [.int 7])]) p with ⟨f | v, s⟩
  · rw [hrun] at hconvert
    cases hconvert
  · have hmakes : p.Makes s := .convert hrun
    obtain ⟨s', hdispose, -, -, hafter⟩ := dispose_releases hbuild hload
      (areAlike_of_fields hfields hread) hkeeps hmakes [.access "counts" (.array .dispose), .leave] []
    obtain ⟨a, ha, hreleased, haccess⟩ := (hafter d hd).1 hcategory
    rw [hread d hd, hname] at ha
    exact ⟨p, s, s', a, hstart, hmakes, hdispose, ha, hreleased, haccess _ rfl⟩

/-- A class within another class that has the name of the array, in a module where that name stands
for vectors. -/
def inner : ClassRef := .defined 0 ⟨"Unit", "game.units", "NativeArray.Unit"⟩ none

def innerRegistry : Registry where
  classes := [{
    label := inner.label
    order := [inner, objectClass]
    body := .record true [("hp", .generic .list [.cls (.builtin "int")])]
    collected := some [("hp", .field)]
    attributes := [] }]
  modules := [⟨"game.units",
    [("NativeArray", .hint (.cls .vector3)), ("Unit", .hint (.cls inner))]⟩]

def failsToRelease (p : Pairing) : Bool :=
  match PairWork.run (.convert [("hp", .list [])]) p with
  | (.ok _, s) => (PairWork.run .dispose s).1.toOption.isNone
  | _ => false

theorem not_all_dispose :
    ¬∀ (r : Registry) (n : Naming) (c : ClassRef) (p s : Pairing),
      Pairing.start r n (.hint (.cls c)) = .ok (some p) → p.Makes s →
      ∃ s', PairWork.run .dispose s = (.ok .none, s') := by
  intro hall
  obtain ⟨p, hstart, hfails⟩ := Pairing.exists_start_of_any (r := innerRegistry) (n := {})
    (v := .hint (.cls inner)) (P := fun p => failsToRelease p = true) (by decide +kernel)
  unfold failsToRelease at hfails
  split at hfails
  · rename_i v s hconvert
    obtain ⟨s', hdispose⟩ := hall innerRegistry {} inner p s hstart (.convert hconvert)
    rw [hdispose] at hfails
    cases hfails
  · cases hfails

end StructForge.Struct

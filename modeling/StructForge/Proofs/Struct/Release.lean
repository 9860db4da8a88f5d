import StructForge.Proofs.Container.Release
import StructForge.Proofs.Struct.FieldSlots

/-! # Releasing a struct

A struct releases the containers of its slots. From its making on, whatever is done to it and to its
containers, each container slot holds a container, and a container that is released stays so. The
values of the other slots do not change. -/

namespace StructForge.Struct

open Live Container Schema

/-! ## Contents of slots over time -/

/-- What a slot for a field of some category holds. -/
inductive Holds (category : Category) : Part → Prop
  | sequence {a : FixedArray} (h : category = .sequence) : Holds category (.array a)
  | mapping {m : GrowingMap Value} (h : category = .mapping) : Holds category (.map m)
  | plain {v : Held} (hsequence : category ≠ .sequence) (hmapping : category ≠ .mapping) :
      Holds category (.plain v)

/-- What may become of the content of a slot: a container may change but not be given storage
again, and a value stays. -/
inductive Part.Evolves : Part → Part → Prop
  | array {a a' : FixedArray} (h : a'.isCreated = true → a.isCreated = true) :
      Evolves (.array a) (.array a')
  | map {m m' : GrowingMap Value} (h : m'.isCreated = true → m.isCreated = true) :
      Evolves (.map m) (.map m')
  | plain {v : Held} : Evolves (.plain v) (.plain v)

inductive Part.IsContainer : Part → Prop
  | array {a : FixedArray} : IsContainer (.array a)
  | map {m : GrowingMap Value} : IsContainer (.map m)

/-- A container without storage. -/
inductive Part.IsReleased : Part → Prop
  | array {a : FixedArray} (h : a.isCreated = false) : IsReleased (.array a)
  | map {m : GrowingMap Value} (h : m.isCreated = false) : IsReleased (.map m)

section Parts

variable {p p' p'' : Part} {category : Category}

theorem Part.Evolves.refl (p : Part) : p.Evolves p := by
  cases p with
  | array => exact .array id
  | map => exact .map id
  | plain => exact .plain

theorem Part.Evolves.trans (h : p.Evolves p') (h' : p'.Evolves p'') : p.Evolves p'' := by
  cases h with
  | array h => cases h' with | array h' => exact .array (h ∘ h')
  | map h => cases h' with | map h' => exact .map (h ∘ h')
  | plain => exact h'

theorem Holds.evolves (h : Holds category p) (hevolves : p.Evolves p') : Holds category p' := by
  cases hevolves with
  | array => cases h with | sequence h => exact .sequence h
  | map => cases h with | mapping h => exact .mapping h
  | plain => exact h

theorem Part.IsReleased.evolves (h : p.IsReleased) (hevolves : p.Evolves p') : p'.IsReleased := by
  cases hevolves with
  | array hstays =>
    cases h with
    | array h => exact .array (Bool.eq_false_iff.mpr fun h' => Bool.eq_false_iff.mp h (hstays h'))
  | map hstays =>
    cases h with
    | map h => exact .map (Bool.eq_false_iff.mpr fun h' => Bool.eq_false_iff.mp h (hstays h'))
  | plain => cases h

theorem Part.IsContainer.evolves (h : p.IsContainer) (hevolves : p.Evolves p') :
    p'.IsContainer := by
  cases hevolves with
  | array => exact .array
  | map => exact .map
  | plain => cases h

theorem Holds.isContainer (h : Holds category p)
    (hcategory : category = .sequence ∨ category = .mapping) : p.IsContainer := by
  cases h with
  | sequence => exact .array
  | mapping => exact .map
  | plain hsequence hmapping => exact absurd hcategory (not_or.mpr ⟨hsequence, hmapping⟩)

theorem Part.IsContainer.release (h : p.IsContainer) :
    (p.isCreated = .ok true ∧ ∃ p', p.dispose = .ok p' ∧ p.Evolves p' ∧ p'.IsReleased) ∨
      p.isCreated = .ok false ∧ p.IsReleased := by
  cases h with
  | @array a =>
    cases hcreated : a.isCreated with
    | true =>
      obtain ⟨a', hdispose, hreleased⟩ := FixedArray.dispose_of_created hcreated
      refine .inl ⟨congrArg Except.ok hcreated, .array a', ?_, .array fun _ => hcreated,
        .array hreleased⟩
      simp only [Part.dispose, hdispose]
      rfl
    | false => exact .inr ⟨congrArg Except.ok hcreated, .array hcreated⟩
  | @map m =>
    cases hcreated : m.isCreated with
    | true =>
      obtain ⟨m', hdispose, hreleased⟩ := GrowingMap.dispose_of_created hcreated
      refine .inl ⟨congrArg Except.ok hcreated, .map m', ?_, .map fun _ => hcreated,
        .map hreleased⟩
      simp only [Part.dispose, hdispose]
      rfl
    | false => exact .inr ⟨congrArg Except.ok hcreated, .map hcreated⟩

theorem Part.IsReleased.isCreated (h : p.IsReleased) : p.isCreated = .ok false := by
  cases h with
  | array h | map h => exact congrArg Except.ok h

end Parts

namespace Record

variable {r r' r'' : Record} {name other : String} {p : Part}

theorem lookup_put : (r.put name p).parts.lookup other =
    if other = name then some p else r.parts.lookup other :=
  lookup_assign

def Evolves (r r' : Record) : Prop :=
  ∀ name p, r.parts.lookup name = some p → ∃ p', r'.parts.lookup name = some p' ∧ p.Evolves p'

theorem Evolves.refl (r : Record) : r.Evolves r := fun _ p h => ⟨p, h, .refl p⟩

theorem Evolves.trans (h : r.Evolves r') (h' : r'.Evolves r'') : r.Evolves r'' := by
  intro name p hp
  obtain ⟨p', hp', hevolves⟩ := h name p hp
  obtain ⟨p'', hp'', hevolves'⟩ := h' name p' hp'
  exact ⟨p'', hp'', hevolves.trans hevolves'⟩

theorem evolves_put {p' : Part} (hp : r.parts.lookup name = some p) (h : p.Evolves p') :
    r.Evolves (r.put name p') := by
  intro other q hq
  rw [lookup_put]
  by_cases hother : other = name
  · rw [hother, hp, Option.some.injEq] at hq
    rw [if_pos hother]
    exact ⟨p', rfl, hq ▸ h⟩
  · rw [if_neg hother]
    exact ⟨q, hq, .refl q⟩

end Record

/-! ## Releasing -/

namespace PairWork

variable {s : Pairing} {r : Record} {name : String} {names : List String} {p : Part}

theorem getRecord_run (hr : s.record = some r) : getRecord name s = (.ok r, s) := by
  unfold getRecord
  rw [get_bind_run, hr]
  rfl

theorem getPart_run (hr : s.record = some r) (hp : r.parts.lookup name = some p) :
    getPart name s = (.ok p, s) := by
  unfold getPart
  rw [bind_run, getRecord_run hr]
  simp only [Record.part, hp]
  rfl

theorem getPart_run_none (hr : s.record = some r) (hp : r.parts.lookup name = none) :
    getPart name s = (.error (r.missing name), s) := by
  unfold getPart
  rw [bind_run, getRecord_run hr]
  simp only [Record.part, hp]
  rfl

theorem putPart_run (hr : s.record = some r) :
    putPart name p s = (.ok (), { s with record := some (r.put name p) }) := by
  change ((.ok (), { s with record := s.record.map (Record.put · name p) }) :
    Except Fault Unit × Pairing) = _
  rw [hr]
  rfl

theorem disposeAll_cons_run (hr : s.record = some r) (hp : r.parts.lookup name = some p)
    (hcontainer : p.IsContainer) :
    ∃ r', disposeAll (name :: names) s = disposeAll names { s with record := some r' } ∧
      r.Evolves r' ∧ ∃ p', r'.parts.lookup name = some p' ∧ p'.IsReleased := by
  rw [disposeAll, bind_run, getPart_run hr hp]
  rcases hcontainer.release with ⟨hcreated, p', hdispose, hevolves, hreleased⟩ |
    ⟨hcreated, hreleased⟩
  · refine ⟨r.put name p', ?_, Record.evolves_put hp hevolves, p', ?_, hreleased⟩
    · simp only [hcreated, hdispose]
      change (putPart name p' >>= fun _ => disposeAll names) s = _
      rw [bind_run, putPart_run hr]
    · rw [Record.lookup_put, if_pos rfl]
  · refine ⟨r, ?_, .refl r, p, hp, hreleased⟩
    simp only [hcreated]
    rw [← hr]
    rfl

/-- Releasing some slots that hold containers succeeds and leaves them without storage. -/
theorem disposeAll_run (hr : s.record = some r)
    (hnames : ∀ name ∈ names, ∃ p, r.parts.lookup name = some p ∧ p.IsContainer) :
    ∃ r', disposeAll names s = (.ok (), { s with record := some r' }) ∧ r.Evolves r' ∧
      ∀ name ∈ names, ∃ p, r'.parts.lookup name = some p ∧ p.IsReleased := by
  induction names generalizing s r with
  | nil => exact ⟨r, by rw [← hr]; rfl, .refl r, by simp⟩
  | cons name rest ih =>
    obtain ⟨p, hp, hcontainer⟩ := hnames name List.mem_cons_self
    obtain ⟨r₁, hrun, hfirst, p₁, hp₁, hreleased⟩ := disposeAll_cons_run hr hp hcontainer
    have hrest : ∀ name ∈ rest, ∃ p, r₁.parts.lookup name = some p ∧ p.IsContainer := by
      intro other hother
      obtain ⟨q, hq, hqcontainer⟩ := hnames other (List.mem_cons_of_mem _ hother)
      obtain ⟨q', hq', hqevolves⟩ := hfirst other q hq
      exact ⟨q', hq', hqcontainer.evolves hqevolves⟩
    obtain ⟨r', hrun', hlast, hall⟩ := ih (s := { s with record := some r₁ }) rfl hrest
    refine ⟨r', by rw [hrun, hrun'], hfirst.trans hlast, List.forall_mem_cons.mpr ⟨?_, hall⟩⟩
    obtain ⟨p₂, hp₂, hevolves⟩ := hlast name p₁ hp₁
    exact ⟨p₂, hp₂, hreleased.evolves hevolves⟩

theorem disposeAll_of_released (hr : s.record = some r)
    (hnames : ∀ name ∈ names, ∃ p, r.parts.lookup name = some p ∧ p.IsReleased) :
    disposeAll names s = (.ok (), s) := by
  induction names with
  | nil => rfl
  | cons name rest ih =>
    obtain ⟨p, hp, hreleased⟩ := hnames name List.mem_cons_self
    rw [disposeAll, bind_run, getPart_run hr hp]
    simp only [hreleased.isCreated]
    exact ih fun name hname => hnames name (List.mem_cons_of_mem _ hname)

end PairWork

end StructForge.Struct

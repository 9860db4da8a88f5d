import StructForge.Batch.Run
import StructForge.Proofs.Struct.BuildFailure

/-! # Emission as a batch sees it

A batch drafts the text of each candidate. A fault of the emission is part of the draft when the
batch records it, and leaves the batch otherwise. With the standard form in use, two faults are not
recorded: a missing zero, and a file name with the null character. -/

namespace StructForge.Struct

open Schema

/-- Whether a batch records an emission fault as an outcome. Others leave the batch. -/
def EmitFault.IsRecorded (e : EmitFault) : Prop :=
  e.toFault.kind = .emission ∨ e.toFault.kind.isTemplate = true

section Emission

variable {templates : Templates} {t : Target} {fields : List Descriptor} {e : EmitFault}

def Templates.KeepsStandard (templates : Templates) : Prop :=
  templates [standardTemplate] = .ok none

theorem StructModel.emitText_of_keepsStandard {m : StructModel} {fileName : String}
    (h : templates.KeepsStandard) :
    m.emitText templates standardTemplate fileName = checkText fileName m.text m.isReadable := by
  have hnames : templateNames? standardTemplate = some [standardTemplate] := by decide
  unfold Templates.KeepsStandard at h
  simp [StructModel.emitText, hnames, h]

theorem checkText_eq_error {fileName text : String} {readable : Bool} :
    checkText fileName text readable = .error e ↔
      ('\x00' ∈ fileName.toList ∧ e = .nullName) ∨
      ('\x00' ∉ fileName.toList ∧ readable = false ∧ e = .unreadable fileName) := by
  unfold checkText
  by_cases hnull : '\x00' ∈ fileName.toList <;> cases readable <;> simp [hnull, eq_comm]

theorem build_unrecorded (hfields : ∀ d ∈ fields, IsClassified d) {fault : ModelFault}
    (h : StructModel.build t fields = .error fault) (he : ¬(EmitFault.model fault).IsRecorded) :
    ∃ name, fault = .noZero name := by
  rcases StructModel.build_error_cases hfields h with ⟨g, rfl⟩ | ⟨d, -, hd⟩
  · exact absurd (.inl rfl) he
  · cases hd with
    | reserved => exact absurd (.inl rfl) he
    | imports => exact absurd (.inl rfl) he
    | zero => exact ⟨_, rfl⟩

/-- With the standard form in use, emission has two kinds of faults that a batch does not record. -/
theorem emit_unrecorded_iff (h : templates.KeepsStandard)
    (hfields : ∀ d ∈ fields, IsClassified d) :
    (emit templates standardTemplate t fields = .error e ∧ ¬e.IsRecorded) ↔
      (∃ d, StructModel.MissesZero t fields d ∧ e = .model (.noZero d.type.name)) ∨
      (fields ≠ [] ∧ (∃ m, StructModel.build t fields = .ok m) ∧ '\x00' ∈ t.fileName.toList ∧
        e = .nullName) := by
  unfold emit
  constructor
  · rintro ⟨hemit, he⟩
    split at hemit
    · cases hemit
    rename_i hne
    split at hemit
    · rename_i fault hbuild
      cases hemit
      obtain ⟨name, rfl⟩ := build_unrecorded hfields hbuild he
      obtain ⟨d, hd, rfl⟩ := (StructModel.build_eq_noZero hfields).mp hbuild
      exact .inl ⟨d, hd, rfl⟩
    · rename_i m hbuild
      split at hemit
      · rename_i e' htext
        cases hemit
        rw [m.emitText_of_keepsStandard h, checkText_eq_error] at htext
        rcases htext with ⟨hnull, rfl⟩ | ⟨-, -, rfl⟩
        · exact .inr ⟨by simpa using hne, ⟨m, hbuild⟩, hnull, rfl⟩
        · exact absurd (.inl rfl) he
      · cases hemit
  · rintro (⟨d, hd, rfl⟩ | ⟨hne, ⟨m, hbuild⟩, hnull, rfl⟩)
    · have hbuild := (StructModel.build_eq_noZero hfields).mpr ⟨d, hd, rfl⟩
      have hne : fields.isEmpty = false := by
        obtain ⟨before, after, rfl, -⟩ := hd
        simp
      simp [hne, hbuild, EmitFault.IsRecorded, EmitFault.toFault, FaultKind.isTemplate]
    · have hne : fields.isEmpty = false := by simpa using hne
      simp [hne, hbuild, m.emitText_of_keepsStandard h, checkText, hnull, EmitFault.IsRecorded,
        EmitFault.toFault, FaultKind.isTemplate]

theorem emit_congr {templates' : Templates}
    (h : templates [standardTemplate] = templates' [standardTemplate]) :
    emit templates standardTemplate t fields = emit templates' standardTemplate t fields := by
  have hnames : templateNames? standardTemplate = some [standardTemplate] := by decide
  unfold emit StructModel.emitText
  rw [hnames]
  simp only [h]

theorem emit_of_keepsStandard (h : templates.KeepsStandard) :
    emit templates standardTemplate t fields = emit .standard standardTemplate t fields :=
  emit_congr h

theorem exists_build_of_emit {name text : String}
    (h : emit templates name t fields = .ok (some text)) :
    fields.isEmpty = false ∧ ∃ m, StructModel.build t fields = .ok m ∧
      m.emitText templates name t.fileName = .ok text := by
  unfold emit at h
  split at h
  · cases h
  rename_i hne
  split at h
  · cases h
  rename_i m hbuild
  split at h
  · cases h
  rename_i htext
  cases h
  exact ⟨by simpa using hne, m, hbuild, htext⟩

theorem null_not_mem_of_emit {text : String}
    (h : emit .standard standardTemplate t fields = .ok (some text)) :
    '\x00' ∉ t.fileName.toList := by
  intro hnull
  obtain ⟨-, m, -, htext⟩ := exists_build_of_emit h
  have hfault : checkText t.fileName m.text m.isReadable = .error .nullName :=
    checkText_eq_error.mpr (.inl ⟨hnull, rfl⟩)
  have hstandard : Templates.standard.KeepsStandard := rfl
  rw [m.emitText_of_keepsStandard hstandard, hfault] at htext
  cases htext

end Emission

end StructForge.Struct

namespace StructForge.Batch

open Schema Struct

section Drafts

variable {templates : Templates} {s : Source} {t : Target} {name text error : String} {f : Fault}

theorem draft_unrendered (h : draft templates t s.extract = .ok (.unrendered error)) :
    ∃ e, emit templates standardTemplate t s.extract.fields = .error e ∧ e.IsRecorded ∧
      e.toFault.message = error := by
  unfold draft at h
  split at h
  · cases h
  · cases h
  · rename_i e hemit
    change (if _ then _ else _ : Except Fault Draft) = _ at h
    split at h
    · rename_i hkind
      cases h
      rw [Bool.or_eq_true, beq_iff_eq] at hkind
      exact ⟨e, hemit, hkind, rfl⟩
    · cases h

theorem draft_empty (h : draft templates t s.extract = .ok .empty) :
    emit templates standardTemplate t s.extract.fields = .ok none := by
  unfold draft at h
  split at h
  · assumption
  · cases h
  · change (if _ then _ else _ : Except Fault Draft) = _ at h
    split at h <;> cases h

theorem draft_eq_ready : draft templates t s.extract = .ok (.ready text) ↔
    emit templates standardTemplate t s.extract.fields = .ok (some text) := by
  unfold draft
  cases emit templates standardTemplate t s.extract.fields with
  | ok answer => cases answer <;> simp
  | error e =>
    refine iff_of_false (fun h => ?_) nofun
    change (if _ then _ else _ : Except Fault Draft) = _ at h
    split at h <;> cases h

theorem draft_congr {templates' : Templates} {fields : FieldSet}
    (h : templates [standardTemplate] = templates' [standardTemplate]) :
    draft templates t fields = draft templates' t fields := by
  unfold draft
  rw [emit_congr h]

theorem emit_eq_none {fields : List Descriptor} :
    emit templates name t fields = .ok none ↔ fields = [] := by
  unfold emit
  cases fields with
  | nil => simp
  | cons d rest =>
    simp only [List.isEmpty_cons, Bool.false_eq_true, if_false, reduceCtorEq, iff_false]
    intro h
    split at h
    · cases h
    · split at h <;> cases h

theorem draft_eq_error :
    draft templates t s.extract = .error f ↔
      ∃ e, emit templates standardTemplate t s.extract.fields = .error e ∧ ¬e.IsRecorded ∧
        e.toFault = f := by
  unfold draft
  cases hemit : emit templates standardTemplate t s.extract.fields with
  | ok text =>
    cases text <;> simp
  | error e =>
    have hrecorded : e.IsRecorded ↔
        (e.toFault.kind == .emission || e.toFault.kind.isTemplate) = true := by
      simp [EmitFault.IsRecorded]
    by_cases he : e.IsRecorded
    · simp [hrecorded.mp he, he]
    · simp [Bool.eq_false_iff.mpr (mt hrecorded.mpr he), he]

end Drafts

end StructForge.Batch

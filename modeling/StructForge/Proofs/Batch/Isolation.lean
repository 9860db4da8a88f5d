import StructForge.Proofs.Batch.Accounting
import StructForge.Proofs.Batch.Effects
import StructForge.Proofs.Batch.FileContents
import StructForge.Proofs.Files.Failing

/-! # What leaves a batch

A batch ends with its report unless a candidate escapes: then its fault leaves the batch and the
candidates after it are not handled. With the standard form in use there are three ways to escape,
and two of them take a null character in the configuration. -/

namespace StructForge.Batch

open Files Schema Struct

/-! ## Stages that fail -/

variable {k : Outlet} {c : Config} {o : Options} {ready ready' raiseOnError : Bool} {s : Source}
  {t : Target} {candidates : List Source} {b b' : Bench} {f : Fault} {text : String}

namespace Work

variable {α : Type}

theorem guarded_run_error {w : Work α} :
    guarded w b = (.error f, b') ↔ w b = (.error f, b') ∧ f.kind.isOs = false := by
  rw [guarded_run]
  rcases w b with ⟨g | r, b₁⟩
  · cases hos : g.kind.isOs with
    | true =>
      simp only [hos, if_true]
      constructor
      · intro h
        cases h
      · rintro ⟨h, hf⟩
        cases h
        rw [hos] at hf
        cases hf
    | false =>
      simp only [hos, Bool.false_eq_true, if_false]
      constructor
      · intro h
        cases h
        exact ⟨rfl, hos⟩
      · rintro ⟨h, -⟩
        cases h
        rfl
  · constructor
    · intro h
      cases h
    · rintro ⟨h, -⟩
      cases h

/-- Saving fails with what is no error of the file system, when the directory is made or when the
text is written. -/
theorem save_run_error (h : save k ready t text b = (.error f, b')) :
    f.kind.isOs = false ∧
      (ready = false ∧ k.ensureDirectory b = (.error f, b') ∨
        ∃ b₁, k.Readies ready b b₁ ∧ k.write t.fileName text b₁ = (.error f, b')) := by
  unfold save at h
  cases hready : ready with
  | true =>
    rw [hready] at h
    rcases bind_run_error.mp h with hwrite | ⟨_, _, -, hpure⟩
    · obtain ⟨hwrite, hos⟩ := guarded_run_error.mp hwrite
      exact ⟨hos, .inr ⟨b, .known rfl, hwrite⟩⟩
    · exact absurd hpure not_pure_run_error
  | false =>
    rw [hready] at h
    rcases bind_run_error.mp h with hmade | ⟨made, b₁, hmade, h⟩
    · obtain ⟨hmade, hos⟩ := guarded_run_error.mp hmade
      exact ⟨hos, .inl ⟨rfl, hmade⟩⟩
    · rcases guarded_run_ok hmade with ⟨dir, rfl, hdir⟩ | ⟨g, rfl, -, -⟩
      · rcases bind_run_error.mp h with hwrite | ⟨_, _, -, hpure⟩
        · obtain ⟨hwrite, hos⟩ := guarded_run_error.mp hwrite
          exact ⟨hos, .inr ⟨b₁, .made rfl hdir, hwrite⟩⟩
        · exact absurd hpure not_pure_run_error
      · exact absurd h not_pure_run_error

theorem finish_run_error {dropped : List Dropped} :
    (∃ b', finish k o ready s t dropped text b = (.error f, b')) ↔
      o.dryRun = false ∧ ∃ b', save k ready t text b = (.error f, b') := by
  unfold finish
  cases hdry : o.dryRun with
  | true =>
    refine iff_of_false ?_ (by simp)
    rintro ⟨b', h⟩
    rw [if_pos rfl] at h
    cases h
  | false =>
    rw [if_neg Bool.false_ne_true]
    constructor
    · rintro ⟨b', h⟩
      rcases bind_run_error.mp h with hsave | ⟨⟨known, answer⟩, b₁, -, h⟩
      · exact ⟨rfl, b', hsave⟩
      · cases answer <;> cases h
    · rintro ⟨-, b', hsave⟩
      exact ⟨b', bind_run_error.mpr (.inl hsave)⟩

theorem handle_run_error :
    (∃ b', handle k c o ready s b = (.error f, b')) ↔ ∃ t, c.naming.target s = .ok t ∧
      (draft (b.templates c) t s.extract = .error f ∨
        ∃ text, draft (b.templates c) t s.extract = .ok (.ready text) ∧
          o.dryRun = false ∧
          ∃ b', save k ready t text (b.rendered c s t) = (.error f, b')) := by
  unfold handle
  cases hname : c.naming.target s with
  | error g =>
    refine iff_of_false ?_ (by simp)
    rintro ⟨b', h⟩
    cases h
  | ok t =>
    simp only [note_bind_run, get_bind_run, Bench.logged_templates, Bench.logged_logged,
      keepStandard_bind_run]
    cases hdraft : draft (b.templates c) t s.extract with
    | error g =>
      constructor
      · rintro ⟨b', h⟩
        cases h
        exact ⟨t, rfl, .inl hdraft⟩
      · rintro ⟨_, ⟨⟩, h | ⟨text, h, -⟩⟩
        · rw [hdraft] at h
          cases h
          exact ⟨_, rfl⟩
        · rw [hdraft] at h
          cases h
    | ok d =>
      cases d with
      | unrendered error => exact iff_of_false (by rintro ⟨b', ⟨⟩⟩) (by simp [hdraft])
      | empty => exact iff_of_false (by rintro ⟨b', ⟨⟩⟩) (by simp [hdraft])
      | ready text =>
        simp only [note_bind_run, Bench.logged_logged]
        change (∃ b', finish k o ready s t s.extract.dropped text
          (b.rendered c s t) = (.error f, b')) ↔ _
        rw [finish_run_error]
        constructor
        · rintro ⟨hdry, b', hsave⟩
          exact ⟨t, rfl, .inr ⟨text, hdraft, hdry, b', hsave⟩⟩
        · rintro ⟨_, ⟨⟩, h | ⟨_, h, hdry, b', hsave⟩⟩
          · rw [hdraft] at h
            cases h
          · rw [hdraft] at h
            cases h
            exact ⟨hdry, b', hsave⟩

/-- In the files of a sink, saving a text under a name without the null character fails only if the
directory holds it. -/
theorem save_files_run_error (hname : '\x00' ∉ t.fileName.toList)
    (hready : ready = true → b.sink.outputDir.holdsNull = false) :
    (∃ b', save .files ready t text b = (.error f, b')) ↔
      b.sink.outputDir.holdsNull = true ∧ f = nullFault := by
  constructor
  · rintro ⟨b', h⟩
    obtain ⟨hos, hwhy⟩ := save_run_error h
    rcases hwhy with ⟨-, hmade⟩ | ⟨b₁, hreadies, hwrite⟩
    · have hmade := (ensureDirectory_run_error hmade).1
      cases hdir : b.sink.outputDir.holdsNull with
      | true =>
        rw [Action.makeDirectories_of_holdsNull hdir] at hmade
        obtain ⟨hf, -⟩ := Prod.mk.inj hmade
        cases hf
        exact ⟨rfl, rfl⟩
      | false =>
        exact absurd (Action.failOnly_makeDirectories hdir _ _ _ hmade) (Bool.eq_false_iff.mp hos)
    · have hdir : b₁.sink.outputDir.holdsNull = false := by
        rw [(prepared_of_readies hreadies).2]
        cases hreadies with
        | known hknown => exact hready hknown
        | made _ hmade =>
          exact Action.holdsNull_of_makeDirectories (ensureDirectory_run_ok hmade).1
      rcases (write_run_error hwrite).2.2 with ⟨-, rfl⟩ | ⟨-, htext⟩
      · cases hos
      · exact absurd (Action.failOnly_writeText (Path.holdsNull_child hdir hname) _ _ _ htext)
          (Bool.eq_false_iff.mp hos)
  · rintro ⟨hdir, rfl⟩
    have hunknown : ready = false := by
      rw [← Bool.not_eq_true]
      intro hknown
      rw [hready hknown] at hdir
      cases hdir
    have hmade : Work.ensureDirectory b = (.error nullFault, b) := by
      rw [ensureDirectory_run, Action.makeDirectories_of_holdsNull hdir]
    refine ⟨b, ?_⟩
    unfold save
    rw [hunknown]
    exact bind_run_error.mpr (.inl (guarded_run_error.mpr ⟨hmade, rfl⟩))

end Work

/-! ## Candidates that escape -/

/-- The fault by which a candidate leaves a batch with the standard form. -/
inductive Escapes (c : Config) (o : Options) (dir : Path) (s : Source) : Fault → Prop
  | noZero {t : Target} {d : Descriptor} (hname : c.naming.target s = .ok t)
      (hzero : StructModel.MissesZero t s.extract.fields d) :
      Escapes c o dir s ⟨.missingKey, Text.quoted d.type.name⟩
  | nullName {t : Target} {m : StructModel} (hname : c.naming.target s = .ok t)
      (hfields : s.extract.fields ≠ []) (hbuild : StructModel.build t s.extract.fields = .ok m)
      (hnull : '\x00' ∈ c.naming.fileSuffix.toList) :
      Escapes c o dir s ⟨.badValue, "embedded null character"⟩
  | nullDirectory {t : Target} {text : String} (hname : c.naming.target s = .ok t)
      (hemit : emit .standard standardTemplate t s.extract.fields = .ok (some text))
      (hdry : o.dryRun = false) (hnull : dir.holdsNull = true) :
      Escapes c o dir s nullFault

/-- Null characters apart, only a field that lacks a zero lets a candidate escape. -/
theorem not_escapes {dir : Path} (hsuffix : '\x00' ∉ c.naming.fileSuffix.toList)
    (hdir : dir.holdsNull = false) (hzero : ∀ d ∈ s.extract.fields, ¬LacksZero d) :
    ¬Escapes c o dir s f := by
  intro h
  cases h with
  | @noZero t d hname hd =>
    obtain ⟨before, after, hsplit, -, -, hlacks⟩ := hd
    refine hzero d ?_ hlacks
    rw [hsplit]
    exact List.mem_append_right _ List.mem_cons_self
  | nullName _ _ _ hnull => exact hsuffix hnull
  | nullDirectory _ _ _ hnull =>
    rw [hdir] at hnull
    cases hnull

theorem null_mem_fileName_iff (hname : c.naming.target s = .ok t) :
    '\x00' ∈ t.fileName.toList ↔ '\x00' ∈ c.naming.fileSuffix.toList := by
  obtain ⟨hid, hfile⟩ := fileName_of_target hname
  rw [hfile, String.toList_append, List.mem_append]
  exact or_iff_right (not_mem_of_isIdentifier hid (by decide +kernel))

theorem Work.handle_files_run_error
    (hstandard : (b.templates c).KeepsStandard)
    (hready : ready = true → b.sink.outputDir.holdsNull = false) :
    (∃ b', handle .files c o ready s b = (.error f, b')) ↔
      Escapes c o b.sink.outputDir s f := by
  have hfields : ∀ d ∈ s.extract.fields, IsClassified d := fun d => isClassified_of_mem_extract
  rw [handle_run_error]
  constructor
  · rintro ⟨t, hname, hdraft | ⟨text, hdraft, hdry, hsave⟩⟩
    · obtain ⟨e, hemit, he, rfl⟩ := draft_eq_error.mp hdraft
      rcases (emit_unrecorded_iff hstandard hfields).mp ⟨hemit, he⟩ with
        ⟨d, hd, rfl⟩ | ⟨hne, ⟨m, hbuild⟩, hnull, rfl⟩
      · exact .noZero hname hd
      · exact .nullName hname hne hbuild ((null_mem_fileName_iff hname).mp hnull)
    · have hemit := draft_eq_ready.mp hdraft
      rw [emit_of_keepsStandard hstandard] at hemit
      obtain ⟨hdir, rfl⟩ := (save_files_run_error (null_not_mem_of_emit hemit)
        (b := b.rendered c s t) hready).mp hsave
      exact .nullDirectory hname hemit hdry hdir
  · intro h
    cases h with
    | noZero hname hzero =>
      have hemit := (emit_unrecorded_iff hstandard hfields).mpr (.inl ⟨_, hzero, rfl⟩)
      exact ⟨_, hname, .inl (draft_eq_error.mpr ⟨_, hemit.1, hemit.2, rfl⟩)⟩
    | nullName hname hne hbuild hnull =>
      have hemit := (emit_unrecorded_iff hstandard hfields).mpr
        (.inr ⟨hne, ⟨_, hbuild⟩, (null_mem_fileName_iff hname).mpr hnull, rfl⟩)
      exact ⟨_, hname, .inl (draft_eq_error.mpr ⟨_, hemit.1, hemit.2, rfl⟩)⟩
    | @nullDirectory t text hname hemit hdry hdir =>
      have hsave : ∃ b', save .files ready t text (b.rendered c s t) =
          (.error nullFault, b') :=
        (save_files_run_error (null_not_mem_of_emit hemit)
          (b := b.rendered c s t) hready).mpr ⟨hdir, rfl⟩
      rw [← emit_of_keepsStandard hstandard] at hemit
      exact ⟨t, hname, .inr ⟨text, draft_eq_ready.mpr hemit, hdry, hsave⟩⟩

/-- Whether every candidate of a batch finds the standard form in use when its turn comes. -/
def KeepsStandard (c : Config) (o : Options) (ready : Bool) (candidates : List Source)
    (b : Bench) : Prop :=
  ∀ before after outcomes b₁, candidates = before ++ after →
    Work.handleAll .files c o ready before b = (.ok outcomes, b₁) →
    (b₁.templates c).KeepsStandard

/-- Without a directory of templates the standard form is in use throughout. -/
theorem keepsStandard_of_eq_none (h : c.templatesDir = none) :
    KeepsStandard c o ready candidates b := by
  intro _ _ _ b₁ _ _
  unfold Bench.templates
  rw [h]
  cases b₁.standardLoaded <;> rfl

theorem KeepsStandard.head (h : KeepsStandard c o ready candidates b) :
    (b.templates c).KeepsStandard :=
  h [] candidates [] b rfl rfl

theorem KeepsStandard.tail {outcome : Outcome} (h : KeepsStandard c o ready (s :: candidates) b)
    (hhandle : Work.handle .files c o ready s b = (.ok (ready', outcome), b')) :
    KeepsStandard c o ready' candidates b' := by
  rintro before after outcomes b₁ rfl hall
  exact h (s :: before) after (outcome :: outcomes) b₁ rfl
    (Work.handleAll_cons_run_ok.mpr ⟨ready', outcome, outcomes, b', hhandle, hall, rfl⟩)

theorem Work.handle_directory {outcome : Outcome}
    (hready : ready = true → b.sink.outputDir.holdsNull = false)
    (h : handle .files c o ready s b = (.ok (ready', outcome), b')) :
    b'.sink.outputDir = b.sink.outputDir ∧
      (ready' = true → b'.sink.outputDir.holdsNull = false) := by
  have hdir := (handle_run_ok h).outputDir
  refine ⟨hdir, fun hready' => ?_⟩
  rw [hdir]
  rcases (treated_of_handle h).accounts.ready_iff.mp hready' with
    hknown | ⟨t, -, -, -, dir, b₁, hmade⟩
  · exact hready hknown
  · exact Action.holdsNull_of_makeDirectories (ensureDirectory_run_ok hmade).1

theorem Work.handleAll_cons_error :
    (∃ b', handleAll k c o ready (s :: candidates) b = (.error f, b')) ↔
      (∃ b', handle k c o ready s b = (.error f, b')) ∨
      ∃ ready' outcome b₁, handle k c o ready s b = (.ok (ready', outcome), b₁) ∧
        ∃ b', handleAll k c o ready' candidates b₁ = (.error f, b') := by
  constructor
  · rintro ⟨b', h⟩
    rcases bind_run_error.mp h with hhead | ⟨⟨ready', outcome⟩, b₁, hhead, h⟩
    · exact .inl ⟨b', hhead⟩
    · rcases bind_run_error.mp h with hrest | ⟨_, _, -, hpure⟩
      · exact .inr ⟨ready', outcome, b₁, hhead, b', hrest⟩
      · exact absurd hpure not_pure_run_error
  · rintro (⟨b', hhead⟩ | ⟨ready', outcome, b₁, hhead, b', hrest⟩)
    · exact ⟨b', bind_run_error.mpr (.inl hhead)⟩
    · exact ⟨b', bind_run_error.mpr (.inr ⟨(ready', outcome), b₁, hhead,
        bind_run_error.mpr (.inl hrest)⟩)⟩

theorem Work.handleAll_run_error (hstandard : KeepsStandard c o ready candidates b)
    (hready : ready = true → b.sink.outputDir.holdsNull = false) :
    (∃ b', handleAll .files c o ready candidates b = (.error f, b')) ↔
      ∃ before s after, candidates = before ++ s :: after ∧
        (∀ s' ∈ before, ∀ f', ¬Escapes c o b.sink.outputDir s' f') ∧
        Escapes c o b.sink.outputDir s f := by
  induction candidates generalizing ready b with
  | nil =>
    refine iff_of_false (by rintro ⟨b', ⟨⟩⟩) ?_
    rintro ⟨before, s, after, hsplit, -⟩
    cases before <;> cases hsplit
  | cons s rest ih =>
    have hhandle (f : Fault) : (∃ b', handle .files c o ready s b = (.error f, b')) ↔
        Escapes c o b.sink.outputDir s f :=
      handle_files_run_error hstandard.head hready
    rw [handleAll_cons_error]
    constructor
    · rintro (hhead | ⟨ready', outcome, b₁, hhead, hrest⟩)
      · exact ⟨[], s, rest, rfl, by simp, (hhandle f).mp hhead⟩
      · obtain ⟨hdir, hready'⟩ := handle_directory hready hhead
        obtain ⟨before, s', after, hsplit, hbefore, hs'⟩ :=
          (ih (hstandard.tail hhead) hready').mp hrest
        rw [hdir] at hbefore hs'
        have hs (f' : Fault) : ¬Escapes c o b.sink.outputDir s f' := by
          intro hescapes
          obtain ⟨b₂, hfail⟩ := (hhandle f').mpr hescapes
          rw [hhead] at hfail
          cases hfail
        exact ⟨s :: before, s', after, congrArg (s :: ·) hsplit,
          List.forall_mem_cons.mpr ⟨hs, hbefore⟩, hs'⟩
    · rintro ⟨before, s', after, hsplit, hbefore, hs'⟩
      cases before with
      | nil =>
        obtain ⟨rfl, rfl⟩ := List.cons.inj hsplit
        exact .inl ((hhandle f).mpr hs')
      | cons s'' before =>
        obtain ⟨rfl, hrest⟩ := List.cons.inj hsplit
        obtain ⟨hs, hbefore⟩ := List.forall_mem_cons.mp hbefore
        rcases hhead : handle .files c o ready s b with ⟨f' | ⟨ready', outcome⟩, b₁⟩
        · exact absurd ((hhandle f').mp ⟨b₁, hhead⟩) (hs f')
        · obtain ⟨hdir, hready'⟩ := handle_directory hready hhead
          rw [← hdir] at hbefore hs'
          exact .inr ⟨ready', outcome, b₁, rfl,
            (ih (hstandard.tail hhead) hready').mpr ⟨before, s', after, hrest, hbefore, hs'⟩⟩

theorem Work.generate_run_error :
    (∃ b', generate c o raiseOnError candidates b = (.error f, b')) ↔
      ∃ b', handleAll .files c o false candidates b = (.error f, b') := by
  constructor
  · rintro ⟨b', h⟩
    rcases bind_run_error.mp h with hrun | ⟨_, _, -, hpure⟩
    · rcases bind_run_error.mp hrun with hall | ⟨outcomes, b₁, -, h⟩
      · exact ⟨b', hall⟩
      · beta_reduce at h
        split at h <;> cases h
    · exact absurd hpure not_pure_run_error
  · rintro ⟨b', hall⟩
    exact ⟨b', bind_run_error.mpr (.inl (bind_run_error.mpr (.inl hall)))⟩

/-- A batch in which the standard form is in use ends exactly if no candidate escapes. It then has
an outcome for each candidate, and raises nothing but its failures. Else the fault of the first
candidate that escapes leaves it. -/
theorem generate_ends_iff (hstandard : KeepsStandard c o false candidates b) :
    ((∃ conclusion b', Work.generate c o raiseOnError candidates b = (.ok conclusion, b') ∧
        conclusion.report.outcomes.map (·.source) = candidates.map (·.name) ∧
        ∀ f, conclusion.raised? = some f → f.kind = .generation) ↔
      ∀ s ∈ candidates, ∀ f, ¬Escapes c o b.sink.outputDir s f) ∧
    ∀ f, (∃ b', Work.generate c o raiseOnError candidates b = (.error f, b')) ↔
      ∃ before s after, candidates = before ++ s :: after ∧
        (∀ s' ∈ before, ∀ f', ¬Escapes c o b.sink.outputDir s' f') ∧
        Escapes c o b.sink.outputDir s f := by
  have hfail (f : Fault) :
      (∃ b', Work.generate c o raiseOnError candidates b = (.error f, b')) ↔ _ :=
    Work.generate_run_error.trans (Work.handleAll_run_error hstandard nofun)
  refine ⟨⟨?_, ?_⟩, hfail⟩
  · rintro ⟨conclusion, b', h, -⟩ s hs f hescapes
    have hfirst : ∃ s ∈ candidates, ∃ f, Escapes c o b.sink.outputDir s f :=
      ⟨s, hs, f, hescapes⟩
    obtain ⟨before, s', after, hsplit, hbefore, f', hs'⟩ := exists_first hfirst
    simp only [not_exists] at hbefore
    obtain ⟨b₂, h'⟩ := (hfail f').mpr ⟨before, s', after, hsplit, hbefore, hs'⟩
    rw [h] at h'
    cases h'
  · intro hnone
    rcases h : Work.generate c o raiseOnError candidates b with ⟨f | conclusion, b'⟩
    · obtain ⟨before, s, after, rfl, -, hs⟩ := (hfail f).mp ⟨b', h⟩
      exact absurd hs (hnone s (List.mem_append_right _ List.mem_cons_self) f)
    · obtain ⟨report, hrun, rfl⟩ := generateTo_run_ok.mp h
      obtain ⟨b₁, hall⟩ := handleAll_of_runTo hrun
      refine ⟨_, b', rfl, ?_, (report.raised?_conclude raiseOnError).2⟩
      rw [report.report_conclude]
      exact (accountsAll_of_handleAll hall).sources

/-- A candidate whose only field is a text that is described as a scalar. -/
def zeroless : Source :=
  ⟨"K", "game.units", "K", [⟨"a", .mk "str" "builtins" "str" .primitive [] false⟩]⟩

def leveled : Source :=
  ⟨"Stats", "game.units", "Stats", [⟨"level", .mk "int" "builtins" "int" .primitive [] false⟩]⟩

theorem escapes_zeroless (o : Options) (dir : Path) :
    Escapes (.defaults (.ofText "/game")) o dir zeroless ⟨.missingKey, Text.quoted "str"⟩ := by
  have hnamed : ∃ t, (Config.defaults (.ofText "/game")).naming.target zeroless = .ok t ∧
      (StructModel.build t []).toOption.isSome = true :=
    exists_of_any (by decide +kernel)
  obtain ⟨t, hname, hbuild⟩ := hnamed
  have hbuild : ∃ m, StructModel.build t [] = .ok m := by
    cases h : StructModel.build t [] with
    | error fault =>
      rw [h] at hbuild
      cases hbuild
    | ok m => exact ⟨m, rfl⟩
  exact .noZero (d := ⟨"a", .scalar, [], .mk "str" "builtins" "str" .primitive [] false⟩) hname
    ⟨[], [], rfl, hbuild, by decide, rfl, rfl, rfl, rfl⟩

/-- A field without a zero ends a batch before its second candidate; that one alone makes a batch
that ends. -/
theorem generate_zeroless :
    (∃ b', Work.generate (.defaults (.ofText "/game")) {} true [zeroless, leveled] freshBench =
      (.error ⟨.missingKey, Text.quoted "str"⟩, b')) ∧
    ∃ conclusion b', Work.generate (.defaults (.ofText "/game")) {} true [leveled] freshBench =
      (.ok conclusion, b') ∧ conclusion.report.outcomes.map (·.source) = ["Stats"] := by
  have hstandard (candidates : List Source) :
      KeepsStandard (.defaults (.ofText "/game")) {} false candidates freshBench :=
    keepsStandard_of_eq_none rfl
  have hfirst := escapes_zeroless {} freshBench.sink.outputDir
  have hzero : ∀ d ∈ leveled.extract.fields, builtinZero? d.type.name ≠ none := by decide
  have hends : ∀ s ∈ [leveled], ∀ f,
      ¬Escapes (.defaults (.ofText "/game")) {} freshBench.sink.outputDir s f := by
    intro s hs f
    obtain rfl := List.mem_singleton.mp hs
    exact not_escapes (by decide) (by decide) fun d hd hlacks => hzero d hd hlacks.2.2.2
  obtain ⟨conclusion, b', h, hsources, -⟩ := (generate_ends_iff (hstandard _)).1.mpr hends
  exact ⟨((generate_ends_iff (hstandard _)).2 _).mpr ⟨[], _, _, rfl, by simp, hfirst⟩,
    conclusion, b', h, hsources⟩

/-- Without a directory of templates a batch may still not end. -/
theorem not_all_generate_end :
    ¬∀ (c : Config) (o : Options) (raiseOnError : Bool) (candidates : List Source) (b : Bench),
      c.templatesDir = none →
      ∃ conclusion b', Work.generate c o raiseOnError candidates b = (.ok conclusion, b') := by
  intro h
  obtain ⟨conclusion, b', hrun⟩ :=
    h (.defaults (.ofText "/game")) {} true [zeroless, leveled] freshBench rfl
  have hnone : (Work.generate (.defaults (.ofText "/game")) {} true [zeroless, leveled]
      freshBench).1.toOption.isNone = true := by
    decide +kernel
  rw [hrun] at hnone
  cases hnone

end StructForge.Batch

import StructForge.Proofs.Batch.Pieces
import StructForge.Proofs.Batch.TemplateUse

/-! # What a dry run foretells

A dry run asks its outlet for the directory only, and leaves the bench as it was up to the log. Its
outcomes are those of a run, with a preview where the run writes a text or is refused by the file
system, as long as the run does not write over the template in use or spoil it. -/

namespace StructForge.Batch

open Files Schema Struct

/-! ## Runs that do nothing -/

/-- Whether a bench has the same files, the same sink and the same announcements as another one. -/
structure Bench.Untouched (b b' : Bench) : Prop where
  tree : b'.tree = b.tree
  sink : b'.sink = b.sink
  announced : b'.announced = b.announced

theorem Bench.Untouched.refl (b : Bench) : b.Untouched b := ⟨rfl, rfl, rfl⟩

theorem Bench.Untouched.trans {b u v : Bench} (h : b.Untouched u) (h' : u.Untouched v) :
    b.Untouched v :=
  ⟨h'.tree.trans h.tree, h'.sink.trans h.sink, h'.announced.trans h.announced⟩

namespace Work

variable {α β : Type} {k k' : Outlet} {c : Config} {o : Options} {ready ready' : Bool} {s : Source}
  {t : Target} {dropped : List Dropped} {text : String} {candidates : List Source} {b b' : Bench}
  {outcome : Outcome} {outcomes : List Outcome}

/-- Work that touches nothing, however it ends. -/
def IsIdle (w : Work α) : Prop := ∀ b : Bench, b.Untouched (w b).2

theorem isIdle_pure (a : α) : IsIdle (pure a : Work α) := fun b => .refl b

theorem isIdle_throw (f : Fault) : IsIdle (throw f : Work α) := fun b => .refl b

theorem isIdle_note (records : List LogRecord) : IsIdle (note records) := fun _ => ⟨rfl, rfl, rfl⟩

theorem isIdle_keepStandard (loaded : Bool) : IsIdle (keepStandard loaded) :=
  fun _ => ⟨rfl, rfl, rfl⟩

theorem IsIdle.bind {w : Work α} {f : α → Work β} (hw : IsIdle w) (hf : ∀ a, IsIdle (f a)) :
    IsIdle (w >>= f) := by
  intro b
  have huntouched := hw b
  rw [bind_run]
  rcases hrun : w b with ⟨e | a, b'⟩
  · rw [hrun] at huntouched
    exact huntouched
  · rw [hrun] at huntouched
    exact huntouched.trans (hf a b')

theorem isIdle_get_bind {f : Bench → Work α} (hf : ∀ b, IsIdle (f b)) : IsIdle (get >>= f) :=
  fun b => hf b b

theorem isIdle_finish (hdry : o.dryRun = true) :
    IsIdle (finish k o ready s t dropped text) := by
  unfold finish
  rw [if_pos hdry]
  exact isIdle_get_bind fun _ => isIdle_pure _

theorem isIdle_handle (hdry : o.dryRun = true) : IsIdle (handle k c o ready s) := by
  unfold handle
  cases c.naming.target s with
  | error f => exact (isIdle_note _).bind fun _ => isIdle_pure _
  | ok t =>
    refine (isIdle_note _).bind fun _ => (isIdle_note _).bind fun _ => isIdle_get_bind fun b =>
      (isIdle_keepStandard _).bind fun _ => ?_
    rcases draft (b.templates c) t s.extract with f | (error | _ | text)
    · exact isIdle_throw f
    · exact (isIdle_note _).bind fun _ => isIdle_pure _
    · exact (isIdle_note _).bind fun _ => isIdle_pure _
    · exact (isIdle_note _).bind fun _ => isIdle_finish hdry

theorem isIdle_handleAll (hdry : o.dryRun = true) : IsIdle (handleAll k c o ready candidates) := by
  induction candidates generalizing ready with
  | nil => exact isIdle_pure _
  | cons s rest ih =>
    exact (isIdle_handle hdry).bind fun _ => ih.bind fun _ => isIdle_pure _

theorem untouched_of_handle {answer : Except Fault (Bool × Outcome)} (hdry : o.dryRun = true)
    (h : handle k c o ready s b = (answer, b')) : b.Untouched b' := by
  have huntouched : b.Untouched (handle k c o ready s b).2 := isIdle_handle hdry b
  rw [h] at huntouched
  exact huntouched

theorem handle_congr (hdry : o.dryRun = true) (hdir : k'.directory = k.directory) :
    handle k' c o ready s = handle k c o ready s := by
  have hfinish (t : Target) (text : String) :
      finish k' o ready s t s.extract.dropped text =
        finish k o ready s t s.extract.dropped text := by
    unfold finish
    rw [if_pos hdry, if_pos hdry, hdir]
  unfold handle
  simp only [hfinish]

theorem handleAll_congr (hdry : o.dryRun = true) (hdir : k'.directory = k.directory) :
    handleAll k' c o ready candidates = handleAll k c o ready candidates := by
  induction candidates generalizing ready with
  | nil => rfl
  | cons s rest ih =>
    simp only [handleAll, handle_congr hdry hdir, ih]

theorem status_ne_written (hdry : o.dryRun = true)
    (h : handle k c o ready s b = (.ok (ready', outcome), b')) : outcome.status ≠ .written := by
  cases treated_of_handle h with
  | unnamed => exact nofun
  | unrendered => exact nofun
  | skipped => exact nofun
  | previewed => exact nofun
  | unwritten => exact nofun
  | written _ _ hwet =>
    rw [hdry] at hwet
    cases hwet

theorem not_mem_written (hdry : o.dryRun = true)
    (h : handleAll k c o ready candidates b = (.ok outcomes, b')) :
    ∀ x ∈ outcomes, x.status ≠ .written := by
  induction candidates generalizing ready b outcomes with
  | nil =>
    obtain ⟨rfl, -⟩ := pure_run_ok.mp h
    exact nofun
  | cons s rest ih =>
    obtain ⟨ready', outcome, outcomes', b₁, hhandle, hrest, rfl⟩ := Work.handleAll_cons_run_ok.mp h
    exact List.forall_mem_cons.mpr ⟨status_ne_written hdry hhandle, ih hrest⟩

/-- A dry run touches nothing, and is the same with every outlet of the same directory: it makes no
directory, writes nothing, and announces nothing. -/
theorem generateTo_dry (raiseOnError : Bool) (candidates : List Source) (b : Bench)
    (hdry : o.dryRun = true) (hdir : k'.directory = k.directory) :
    b.Untouched (generateTo k c o raiseOnError candidates b).2 ∧
      generateTo k' c o raiseOnError candidates b =
        generateTo k c o raiseOnError candidates b := by
  have huntouched : b.Untouched (handleAll k c o false candidates b).2 := isIdle_handleAll hdry b
  unfold generateTo runTo
  simp only [bind_assoc, handleAll_congr hdry hdir]
  rw [bind_run, bind_run]
  rcases hall : handleAll k c o false candidates b with ⟨f | outcomes, b₁⟩
  · rw [hall] at huntouched
    exact ⟨huntouched, rfl⟩
  · rw [hall] at huntouched
    have hempty : (Report.mk outcomes).written.isEmpty = true :=
      (Report.mk outcomes).written_isEmpty.mpr (not_mem_written hdry hall)
    simp only [hempty]
    exact ⟨⟨huntouched.tree, huntouched.sink, huntouched.announced⟩, rfl⟩

end Work

/-! ## What is foretold -/

/-- Whether an outcome tells why its candidate cannot be named, or why no text of it is emitted. -/
def Outcome.TellsNoText (c : Config) (s : Source) (b : Bench) (x : Outcome) : Prop :=
  (∃ f, c.naming.target s = .error f ∧ x.error? = some f.message) ∨
    ∃ t e, c.naming.target s = .ok t ∧ emission c s b t = .error e ∧
      x.error? = some e.toFault.message

/-- Whether an outcome tells the error of the file system by which a text was not saved. -/
def Outcome.TellsUnsaved (k : Outlet) (c : Config) (ready : Bool) (s : Source) (b : Bench)
    (x : Outcome) : Prop :=
  ∃ t text f ready' b', c.naming.target s = .ok t ∧ emission c s b t = .ok (some text) ∧
    k.Saves ready t.fileName text (b.rendered c s t) ready' (.error f) b' ∧
    f.kind.isOs = true ∧ x.error? = some f.message

structure Foretells (k : Outlet) (c : Config) (ready : Bool) (s : Source) (b : Bench)
    (shown outcome : Outcome) : Prop where
  source : shown.source = outcome.source
  target : shown.target? = outcome.target?
  dropped : shown.dropped = outcome.dropped
  text : shown.text? = outcome.text?
  statuses :
    (shown.status = .skipped ∧ outcome.status = .skipped) ∨
    (shown.status = .failed ∧ outcome.status = .failed ∧ shown.error? = outcome.error? ∧
      outcome.TellsNoText c s b) ∨
    (shown.status = .previewed ∧ outcome.status = .written ∧ shown.path? = outcome.path?) ∨
    (shown.status = .previewed ∧ outcome.status = .failed ∧ outcome.TellsUnsaved k c ready s b)

/-- Outcomes of a run of candidates in order, each foretold by what is shown at its place. -/
inductive ForetellsAll (k : Outlet) (c : Config) (o : Options) :
    Bool → List Source → Bench → List Outcome → List Outcome → Bench → Prop
  | nil {ready : Bool} {b : Bench} : ForetellsAll k c o ready [] b [] [] b
  | cons {ready ready' : Bool} {s : Source} {rest : List Source} {b b' b'' : Bench}
      {shown outcome : Outcome} {shownRest outcomes : List Outcome}
      (hhandle : Work.handle k c o ready s b = (.ok (ready', outcome), b'))
      (head : Foretells k c ready s b shown outcome)
      (tail : ForetellsAll k c o ready' rest b' shownRest outcomes b'') :
      ForetellsAll k c o ready (s :: rest) b (shown :: shownRest) (outcome :: outcomes) b''

section Step

variable {k : Outlet} {spoils : Prop} {c : Config} {o : Options} {ready ready' : Bool}
  {s : Source} {t : Target} {b b' u : Bench} {outcome : Outcome} {d : Draft} {name text : String}
  {path : Path} {f : Fault}

theorem Outlet.Saves.isOs (h : k.Saves ready name text b ready' (.error f) b') :
    f.kind.isOs = true := by
  cases h with
  | noDirectory _ _ hos => exact hos
  | unwritten _ _ hos => exact hos

theorem Outlet.Saves.path_eq (h : Outlet.files.Saves ready name text b ready' (.ok path) b') :
    path = b.sink.outputDir.child name := by
  cases h with
  | written hready hwrite =>
    obtain ⟨-, rfl, -⟩ := Work.write_run_ok hwrite
    rw [(Work.prepared_of_readies hready).2]

def Draft.shown (s : Source) (t : Target) (path : Path) : Draft → Outcome
  | .unrendered error => .unrendered s.name t s.extract.dropped error
  | .empty => .skipped s.name t s.extract.dropped
  | .ready text => .previewed s.name t s.extract.dropped path text

theorem handle_unnamed {f : NamingFault} (hname : c.naming.target s = .error f) :
    ∃ b', Work.handle k c o ready s b = (.ok (ready, .unnamed s.name f.message), b') := by
  unfold Work.handle
  rw [hname]
  exact ⟨_, rfl⟩

theorem handle_dry (hdry : o.dryRun = true) (hname : c.naming.target s = .ok t)
    (hdraft : draft (b.templates c) t s.extract = .ok d) :
    ∃ b', Work.handle .files c o ready s b =
      (.ok (ready, d.shown s t (b.sink.outputDir.child t.fileName)), b') := by
  unfold Work.handle
  rw [hname]
  simp only [Work.note_bind_run, get_bind_run, Bench.logged_templates, Bench.logged_logged,
    Work.keepStandard_bind_run, hdraft]
  cases d with
  | unrendered error => exact ⟨_, rfl⟩
  | empty => exact ⟨_, rfl⟩
  | ready text =>
    simp only [Work.note_bind_run, Work.finish, hdry]
    exact ⟨_, rfl⟩

/-- What a dry run shows of a candidate foretells its outcome, when both find the same template. -/
theorem Treated.exists_foretells {dry : Options} (known : Bool) (hk : k.IsOnTree spoils)
    (h : Treated k c o ready s b ready' outcome b') (hwet : o.dryRun = false)
    (hdry : dry.dryRun = true) (hover : u.override? c = b.override? c)
    (hdir : u.sink.outputDir = b.sink.outputDir) :
    ∃ shown u', Work.handle .files c dry known s u = (.ok (known, shown), u') ∧
      Foretells k c ready s b shown outcome := by
  have hshown {t : Target} {d : Draft} (hname : c.naming.target s = .ok t)
      (hdraft : draft (b.templates c) t s.extract = .ok d) :
      ∃ u', Work.handle .files c dry known s u =
        (.ok (known, d.shown s t (b.sink.outputDir.child t.fileName)), u') := by
    rw [← hdir]
    exact handle_dry hdry hname ((draft_congr hover).trans hdraft)
  cases h with
  | unnamed hname =>
    obtain ⟨u', hrun⟩ := handle_unnamed hname
    exact ⟨_, u', hrun, rfl, rfl, rfl, rfl, .inr (.inl ⟨rfl, rfl, rfl, .inl ⟨_, hname, rfl⟩⟩)⟩
  | unrendered hname hdraft =>
    obtain ⟨u', hrun⟩ := hshown hname hdraft
    obtain ⟨e, hemit, -, rfl⟩ := draft_unrendered hdraft
    exact ⟨_, u', hrun, rfl, rfl, rfl, rfl,
      .inr (.inl ⟨rfl, rfl, rfl, .inr ⟨_, e, hname, hemit, rfl⟩⟩)⟩
  | skipped hname hdraft =>
    obtain ⟨u', hrun⟩ := hshown hname hdraft
    exact ⟨_, u', hrun, rfl, rfl, rfl, rfl, .inl ⟨rfl, rfl⟩⟩
  | previewed _ _ hdry' =>
    rw [hwet] at hdry'
    cases hdry'
  | unwritten hname hdraft _ hsave =>
    obtain ⟨u', hrun⟩ := hshown hname hdraft
    exact ⟨_, u', hrun, rfl, rfl, rfl, rfl, .inr (.inr (.inr ⟨rfl, rfl, _, _, _, _, _, hname,
      draft_eq_ready.mp hdraft, hsave, hsave.isOs, rfl⟩))⟩
  | written hname hdraft _ hsave =>
    obtain ⟨u', hrun⟩ := hshown hname hdraft
    obtain rfl := (hk.saves hsave).path_eq
    exact ⟨_, u', hrun, rfl, rfl, rfl, rfl, .inr (.inr (.inl ⟨rfl, rfl, rfl⟩))⟩

end Step

section Run

variable {k : Outlet} {spoils : Prop} {c : Config} {wet dry : Options} {ready : Bool}
  {candidates : List Source} {b b' u : Bench} {s : Source} {outcome : Outcome}
  {outcomes : List Outcome}

theorem keepsTemplate_of_dry {known known' : Bool} {shown : Outcome} {u' : Bench}
    (hdry : dry.dryRun = true)
    (h : Work.handle .files c dry known s u = (.ok (known', shown), u')) :
    u.KeepsTemplate False c [shown] := by
  rw [Bench.keepsTemplate_false]
  intro dir template hdir hover x hx hwritten
  obtain rfl := List.mem_singleton.mp hx
  exact Work.status_ne_written hdry h hwritten.1

/-- A dry run keeps up with a run of the same candidates: where the one is done with a candidate the
other has an outcome, and both go on with the same template. -/
theorem exists_foretellsAll (known : Bool) (hk : k.IsOnTree spoils) (hwet : wet.dryRun = false)
    (hdry : dry.dryRun = true)
    (h : Work.handleAll k c wet ready candidates b = (.ok outcomes, b'))
    (hkeeps : b.KeepsTemplate spoils c outcomes) (hover : u.override? c = b.override? c)
    (hdir : u.sink.outputDir = b.sink.outputDir) :
    ∃ shown u', Work.handleAll .files c dry known candidates u = (.ok shown, u') ∧
      ForetellsAll k c wet ready candidates b shown outcomes b' := by
  induction candidates generalizing ready b u outcomes with
  | nil =>
    obtain ⟨rfl, rfl⟩ := pure_run_ok.mp h
    exact ⟨[], u, rfl, .nil⟩
  | cons s rest ih =>
    obtain ⟨ready', outcome, outcomes', b₁, hhandle, hrest, rfl⟩ := Work.handleAll_cons_run_ok.mp h
    have htreated := Work.treated_of_handle hhandle
    obtain ⟨shown, u₁, hshown, hforetells⟩ :=
      htreated.exists_foretells known hk hwet hdry hover hdir
    obtain ⟨hchanges, hdir', -⟩ := htreated.changes hk
    have huntouched := Work.untouched_of_handle hdry hshown
    -- both go on with the template that they have found at this candidate
    have hover₁ : b₁.override? c = b.override? c := override?_of_handle hk hhandle hkeeps.head
    have hover₂ : u₁.override? c = u.override? c :=
      override?_of_handle Outlet.isOnTree_files hshown (keepsTemplate_of_dry hdry hshown)
    have hdir₁ : u₁.sink.outputDir = b₁.sink.outputDir := by
      rw [huntouched.sink, hdir, hdir']
    obtain ⟨shownRest, u₂, hshownRest, htail⟩ :=
      ih hrest (hkeeps.tail hchanges.here hdir' hover₁)
        (hover₂.trans (hover.trans hover₁.symm)) hdir₁
    exact ⟨shown :: shownRest, u₂,
      Work.handleAll_cons_run_ok.mpr ⟨known, shown, shownRest, u₁, hshown, hshownRest, rfl⟩,
      .cons hhandle hforetells htail⟩

/-- On every sink on the tree of a bench, the dry run of some candidates foretells a run of them that
ends and leaves the template in use as it is, whatever its failing writes leave in their files. -/
theorem foretells_of_generateTo (hk : k.IsOnTree spoils) {conclusion : Conclusion}
    (h : Work.generateTo k c { dryRun := false } false candidates b = (.ok conclusion, b'))
    (hkeeps : b.KeepsTemplate spoils c conclusion.report.outcomes) :
    ∃ shown b₁ b₂,
      Work.generateTo k c { dryRun := true } false candidates b = (.ok (.returned shown), b₁) ∧
      ForetellsAll k c { dryRun := false } false candidates b shown.outcomes
        conclusion.report.outcomes b₂ := by
  obtain ⟨report, hrun, rfl⟩ := generateTo_run_ok.mp h
  rw [report.report_conclude] at hkeeps ⊢
  obtain ⟨b₂, hall⟩ := handleAll_of_runTo hrun
  have hdry : Options.dryRun { dryRun := true } = true := rfl
  obtain ⟨shown, u, hshown, hforetells⟩ :=
    exists_foretellsAll false hk rfl hdry hall hkeeps rfl rfl
  have hconclusion : Work.conclusion .files c { dryRun := true } candidates b =
      (.ok (.returned ⟨shown⟩), u) :=
    bind_run_ok.mpr ⟨shown, u, hshown, rfl⟩
  have hanswer : (Work.generateTo .files c { dryRun := true } false candidates b).1 =
      (Work.conclusion .files c { dryRun := true } candidates b).1 :=
    (Work.generate_alike Outlet.isOnTree_files candidates b).1
  have hsame : Work.generateTo k c { dryRun := true } false candidates b =
      Work.generateTo .files c { dryRun := true } false candidates b :=
    (Work.generateTo_dry false candidates b hdry hk.directory).2
  rw [hconclusion, ← hsame] at hanswer
  exact ⟨⟨shown⟩, (Work.generateTo k c { dryRun := true } false candidates b).2, b₂,
    eq_mk_of_fst_eq hanswer, hforetells⟩

/-- For all candidates in order, a dry run leaves the files, the sink and the announcements as they
were, however it ends, and it is the same run with every outlet of the same directory: none is asked
to make the directory, to write, or to announce.

When a run of the candidates from the same bench ends, and has not written over the template in use,
the dry run ends too, and each outcome that it shows foretells the outcome at its place. -/
theorem foretells_of_generate (c : Config) (candidates : List Source) (b : Bench) :
    (∀ (k k' : Outlet) (raiseOnError : Bool), k'.directory = k.directory →
      b.Untouched (Work.generateTo k c { dryRun := true } raiseOnError candidates b).2 ∧
        Work.generateTo k' c { dryRun := true } raiseOnError candidates b =
          Work.generateTo k c { dryRun := true } raiseOnError candidates b) ∧
    ∀ conclusion b',
      Work.generate c { dryRun := false } false candidates b = (.ok conclusion, b') →
      b.SparesTemplate c conclusion.report.outcomes →
      ∃ shown b₁ b₂,
        Work.generate c { dryRun := true } false candidates b = (.ok (.returned shown), b₁) ∧
        ForetellsAll .files c { dryRun := false } false candidates b shown.outcomes
          conclusion.report.outcomes b₂ :=
  ⟨fun _ _ raiseOnError hdir => Work.generateTo_dry raiseOnError candidates b rfl hdir,
    fun _ _ h hspares =>
      foretells_of_generateTo Outlet.isOnTree_files h (Bench.keepsTemplate_false.mpr hspares)⟩

/-- A bench with a template in the place of the standard form, and a sink that refuses one name. -/
def templatedBench : Bench :=
  { refusingBench with
    tree.entries := [(["templates"], .directory),
      (["templates", standardTemplate], .file "unit = 1\n".toUTF8)] }

def templatedConfig : Config :=
  { Config.defaults (.ofText "/game") with templatesDir := some (.ofText "/templates") }

/-- With a template in the place of the standard form, a dry run foretells a run in which one text
is written and one is refused. -/
theorem foretells_mixedBatch :
    ∃ conclusion b' shown b₁ b₂,
      Work.generate templatedConfig { dryRun := false } false mixedBatch templatedBench =
        (.ok conclusion, b') ∧
      Work.generate templatedConfig { dryRun := true } false mixedBatch templatedBench =
        (.ok (.returned shown), b₁) ∧
      ForetellsAll .files templatedConfig { dryRun := false } false mixedBatch templatedBench
        shown.outcomes conclusion.report.outcomes b₂ ∧
      conclusion.report.outcomes.map (·.status) =
        [.failed, .failed, .skipped, .written, .failed] ∧
      shown.outcomes.map (·.status) = [.failed, .failed, .skipped, .previewed, .previewed] ∧
      b₁.tree = templatedBench.tree := by
  have hends : ∃ conclusion,
      (Work.generate templatedConfig { dryRun := false } false mixedBatch templatedBench).1 =
        .ok conclusion ∧
      conclusion.report.outcomes.map (·.status) =
        [.failed, .failed, .skipped, .written, .failed] ∧
      ∀ x ∈ conclusion.report.outcomes,
        ¬x.IsWrittenAt [] ((templatePath (.ofText "/templates")).locate []) :=
    exists_of_any (by decide +kernel)
  have hshown : ∃ conclusion,
      (Work.generate templatedConfig { dryRun := true } false mixedBatch templatedBench).1 =
        .ok conclusion ∧
      conclusion.report.outcomes.map (·.status) =
        [.failed, .failed, .skipped, .previewed, .previewed] :=
    exists_of_any (by decide +kernel)
  obtain ⟨conclusion, hok, hstatuses, hnot⟩ := hends
  obtain ⟨conclusion', hok', hstatuses'⟩ := hshown
  have hrun : Work.generate templatedConfig { dryRun := false } false mixedBatch templatedBench =
      (.ok conclusion, (Work.generate templatedConfig { dryRun := false } false mixedBatch
        templatedBench).2) :=
    eq_mk_of_fst_eq hok
  have hspares : templatedBench.SparesTemplate templatedConfig conclusion.report.outcomes := by
    intro dir text hdir _
    obtain rfl := Option.some.inj hdir
    exact hnot
  obtain ⟨hdry, hforetold⟩ := foretells_of_generate templatedConfig mixedBatch templatedBench
  have huntouched : templatedBench.Untouched (Work.generate templatedConfig { dryRun := true } false
      mixedBatch templatedBench).2 :=
    (hdry .files .files false rfl).1
  obtain ⟨shown, b₁, b₂, hpreview, hall⟩ := hforetold conclusion _ hrun hspares
  rw [hpreview] at hok' huntouched
  cases hok'
  exact ⟨conclusion, _, shown, b₁, b₂, hrun, hpreview, hall, hstatuses, hstatuses',
    huntouched.tree⟩

end Run

end StructForge.Batch

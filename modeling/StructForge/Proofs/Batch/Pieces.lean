import StructForge.Proofs.Batch.Accounting
import StructForge.Proofs.Batch.Comparison
import StructForge.Proofs.Batch.FailingWrites

/-! # Batches in pieces

A batch ends as its pieces do when they are run one after the other. Between two pieces a run
forgets that the output directory is there, and it announces what has been written. Neither makes a
difference: making a directory again changes nothing, and what has been announced is not looked at
when a candidate is handled. It does not matter what a write that fails leaves in its file. -/

namespace StructForge.Batch

open Files Schema Struct

attribute [ext] Sink

def Bench.handed (b : Bench) : List Path := b.announced.flatten ++ b.sink.pending

/-- Whether two benches are alike for the handling of candidates. Their logs are left out, and it
does not matter which of the paths that have been written were announced. -/
structure Bench.Agrees (b u : Bench) : Prop where
  tree : b.tree = u.tree
  standardLoaded : b.standardLoaded = u.standardLoaded
  outputDir : b.sink.outputDir = u.sink.outputDir
  readOnly : b.sink.readOnly = u.sink.readOnly
  handed : b.handed = u.handed

theorem Bench.Agrees.refl (b : Bench) : b.Agrees b := ⟨rfl, rfl, rfl, rfl, rfl⟩

theorem Bench.Agrees.symm {b u : Bench} (h : b.Agrees u) : u.Agrees b :=
  ⟨h.tree.symm, h.standardLoaded.symm, h.outputDir.symm, h.readOnly.symm, h.handed.symm⟩

theorem Bench.Agrees.trans {b u v : Bench} (h : b.Agrees u) (h' : u.Agrees v) : b.Agrees v :=
  ⟨h.tree.trans h'.tree, h.standardLoaded.trans h'.standardLoaded, h.outputDir.trans h'.outputDir,
    h.readOnly.trans h'.readOnly, h.handed.trans h'.handed⟩

/-! ## Work that benches which are alike do not tell apart -/

/-- The comparison of two runs up to logs and announcements. -/
def agreement : Comparison where
  Same := Bench.Agrees
  Leads _ _ b' u' := b'.Agrees u'
  same h := h
  refl h := h
  trans _ h := h

namespace Work

variable {α β : Type} {k : Outlet} {c : Config} {o : Options} {ready : Bool} {s : Source}
  {t : Target} {dropped : List Dropped} {text : String}

def Alike (x y : Except Fault α × Bench) : Prop := x.1 = y.1 ∧ x.2.Agrees y.2

theorem Alike.symm {x y : Except Fault α × Bench} (h : Alike x y) : Alike y x :=
  ⟨h.1.symm, h.2.symm⟩

theorem Alike.trans {x y z : Except Fault α × Bench} (h : Alike x y) (h' : Alike y z) :
    Alike x z :=
  ⟨h.1.trans h'.1, h.2.trans h'.2⟩

theorem Alike.bind {w v : Work α} {f g : α → Work β} {b u : Bench} (h : Alike (w b) (v u))
    (hrest : ∀ a b' u', b'.Agrees u' → Alike (f a b') (g a u')) :
    Alike ((w >>= f) b) ((v >>= g) u) :=
  Ends.bind (R := Bench.Agrees) h (fun _ _ => id) hrest

def Respects (w : Work α) : Prop := ∀ b u : Bench, b.Agrees u → Alike (w b) (w u)

theorem respects_pure (a : α) : Respects (pure a : Work α) := fun _ _ h => ⟨rfl, h⟩

theorem respects_throw (f : Fault) : Respects (throw f : Work α) := fun _ _ h => ⟨rfl, h⟩

theorem Respects.bind {w : Work α} {f : α → Work β} (hw : Respects w)
    (hf : ∀ a, Respects (f a)) : Respects (w >>= f) :=
  Comparison.Keeps.bind (r := agreement) hw hf

theorem Respects.get_bind {f : Bench → Work α} (hf : ∀ b, Respects (f b))
    (heq : ∀ b u : Bench, b.Agrees u → f b = f u) : Respects (get >>= f) :=
  Comparison.Keeps.get_bind (r := agreement) hf heq

theorem respects_note (records : List LogRecord) : Respects (note records) :=
  fun _ _ h => ⟨rfl, h.tree, h.standardLoaded, h.outputDir, h.readOnly, h.handed⟩

theorem respects_keepStandard (loaded : Bool) : Respects (keepStandard loaded) :=
  fun _ _ h =>
    ⟨rfl, h.tree, congrArg (· || loaded) h.standardLoaded, h.outputDir, h.readOnly, h.handed⟩

theorem respects_ensureDirectory : Respects ensureDirectory := by
  intro b u h
  rw [ensureDirectory_run, ensureDirectory_run, h.outputDir, h.tree]
  rcases Action.makeDirectories u.sink.outputDir u.tree with ⟨f | ⟨⟩, tree⟩
  · exact ⟨rfl, rfl, h.standardLoaded, h.outputDir, h.readOnly, h.handed⟩
  · exact ⟨rfl, rfl, h.standardLoaded, h.outputDir, h.readOnly, h.handed⟩

theorem respects_act (a : Action α) : Respects (act a) := by
  intro b u h
  rw [act_run, act_run, h.tree]
  exact ⟨rfl, rfl, h.standardLoaded, h.outputDir, h.readOnly, h.handed⟩

theorem respects_concludeWrite (path : Path) (text : String) :
    Respects (Disk.concludeWrite path text) := by
  refine .bind (fun b u h => ?_) fun _ => (respects_note _).bind fun _ => respects_pure _
  refine ⟨rfl, h.tree, h.standardLoaded, h.outputDir, h.readOnly, ?_⟩
  have hhanded : b.announced.flatten ++ b.sink.pending =
      u.announced.flatten ++ u.sink.pending := h.handed
  change b.announced.flatten ++ (b.sink.pending ++ [path]) =
    u.announced.flatten ++ (u.sink.pending ++ [path])
  rw [← List.append_assoc, hhanded, List.append_assoc]

/-- A write that breaks off by what is in the tree ends alike at benches that are alike. -/
theorem respects_write_breaking (breaks : Path → String → Tree → Option (Fault × String))
    (name text : String) : Respects ((Outlet.breaking breaks).write name text) := by
  have hover (path : Path) : Respects ((Disk.breaking breaks).overwrite path text) := by
    refine .get_bind (fun b => ?_) fun b u h => by simp only [h.tree]
    dsimp only
    rcases breaks path text b.tree with _ | ⟨f, left⟩
    · exact respects_act _
    · exact (respects_act _).bind fun _ => respects_throw f
  refine .get_bind (fun b => ?_) fun b u h => by simp only [h.readOnly, h.outputDir]
  dsimp only
  split
  · exact respects_throw _
  · exact (hover _).bind fun _ => respects_concludeWrite _ _

theorem respects_write (name text : String) : Respects (write name text) := by
  have hplain : Outlet.breaking (fun _ _ _ => none) = .files := Outlet.onDisk_tree
  have h := respects_write_breaking (fun _ _ _ => none) name text
  rwa [hplain] at h

theorem covers_of_isOnTree {spoils : Prop} (hk : k.IsOnTree spoils)
    (hwrite : ∀ name text, Respects (k.write name text)) : agreement.Covers k where
  directory _ _ h := by
    rw [hk.directory]
    exact h.outputDir
  ensureDirectory := by
    rw [hk.ensureDirectory]
    exact respects_ensureDirectory
  write := hwrite
  say _ _ _ := respects_note _

theorem respects_handle (hk : agreement.Covers k) : Respects (handle k c o ready s) := by
  unfold handle
  cases c.naming.target s with
  | error f => exact (respects_note _).bind fun _ => respects_pure _
  | ok t =>
    refine (respects_note _).bind fun _ => (respects_note _).bind fun _ => .get_bind ?_ ?_
    · intro b
      refine (respects_keepStandard _).bind fun _ => ?_
      rcases draft (b.templates c) t s.extract with f | (error | - | text)
      · exact respects_throw f
      · exact (respects_note _).bind fun _ => respects_pure _
      · exact (respects_note _).bind fun _ => respects_pure _
      · exact (respects_note _).bind fun _ => hk.finish
    · intro b u h
      have htemplates : b.templates c = u.templates c := by
        unfold Bench.templates
        rw [h.standardLoaded, h.tree]
      rw [htemplates]

theorem respects_handleAll (hk : agreement.Covers k) {candidates : List Source} :
    Respects (handleAll k c o ready candidates) := by
  induction candidates generalizing ready with
  | nil => exact respects_pure _
  | cons s rest ih =>
    exact (respects_handle hk).bind fun _ => ih.bind fun _ => respects_pure _

end Work

/-! ## An output directory that is there -/

def Bench.IsSettled (b : Bench) : Prop := b.tree.isDirectory b.sink.outputDir = .ok true

section Settled

variable {k : Outlet} {spoils : Prop} {c : Config} {o : Options} {templates : Templates}
  {ready ready' : Bool} {s : Source} {t : Target} {text : String} {tree tree' : Tree}
  {sink sink' : Sink} {outcome : Outcome} {outcomes : List Outcome} {candidates : List Source}
  {b b' b₁ : Bench}

theorem Prepared.isDirectory {start : Tree} (h : Prepared ready sink start tree)
    (hready : ready = true → start.isDirectory sink.outputDir = .ok true) :
    tree.isDirectory sink.outputDir = .ok true := by
  cases h with
  | known hknown => exact hready hknown
  | made _ hmade => exact Action.isDirectory_of_makeDirectories hmade

theorem Handled.isDirectory
    (h : Handled c o templates ready s tree sink ready' outcome tree' sink')
    (hready : ready = true → tree.isDirectory sink.outputDir = .ok true) :
    ready' = true → tree'.isDirectory sink'.outputDir = .ok true := by
  cases h with
  | unnamed => exact hready
  | unrendered => exact hready
  | skipped => exact hready
  | previewed => exact hready
  | noDirectory => exact nofun
  | refused _ _ _ hprep => exact fun _ => hprep.isDirectory hready
  | unwritten _ _ _ hprep => exact fun _ => hprep.isDirectory hready
  | written _ _ _ hprep _ hwrite =>
    intro _
    obtain ⟨-, place, hplace, rfl⟩ := Action.writeText_run_ok.mp hwrite
    obtain ⟨hne, hdir⟩ := hplace.find?_ne
    exact Tree.isDirectory_of_extends (hprep.isDirectory hready) (Tree.stores_put hne hdir).extends

theorem Bench.IsSettled.of_changes (written made : Location → Prop) (h : b.IsSettled)
    (hchanges : b.tree.Changes b'.tree written made)
    (hdir : b'.sink.outputDir = b.sink.outputDir) : b'.IsSettled := by
  unfold Bench.IsSettled
  rw [hdir]
  exact Tree.isDirectory_of_extends h hchanges.extends

theorem Bench.isSettled_of_readies (h : Outlet.files.Readies ready b b₁)
    (hready : ready = true → b.IsSettled) : b₁.IsSettled := by
  obtain ⟨hprep, hsink⟩ := Work.prepared_of_readies h
  unfold Bench.IsSettled
  rw [hsink]
  exact hprep.isDirectory hready

/-- Where the output directory is known to be there after a candidate, it is there. -/
theorem Treated.isSettled (hk : k.IsOnTree spoils) (h : Treated k c o ready s b ready' outcome b')
    (hready : ready = true → b.IsSettled) : ready' = true → b'.IsSettled := by
  have hsaved {name text : String} {answer : Except Fault Path} {b₁ b₂ : Bench}
      (hsave : k.Saves ready name text b₁ ready' answer b₂)
      (hb₁ : ready = true → b₁.IsSettled) : ready' = true → b₂.IsSettled := by
    cases hsave with
    | noDirectory => exact nofun
    | unwritten hreadies hwrite =>
      have hsettled := Bench.isSettled_of_readies (hk.readies hreadies) hb₁
      rcases hk.failed hwrite with rfl | ⟨-, place, left, hplace, rfl⟩
      · exact fun _ => hsettled
      · obtain ⟨hne, hdir⟩ := hplace.find?_ne
        exact fun _ => hsettled.of_changes (· = place) (fun _ => False)
          (Tree.changes_put_file hne hdir rfl) rfl
    | written hreadies hwrite =>
      have hsettled := Bench.isSettled_of_readies (hk.readies hreadies) hb₁
      obtain ⟨-, -, htext, hsink⟩ := Work.write_run_ok (hk.written hwrite)
      obtain ⟨-, place, hplace, htree⟩ := Action.writeText_run_ok.mp htext
      obtain ⟨hne, hdir⟩ := hplace.find?_ne
      refine fun _ => hsettled.of_changes (· = place) (fun _ => False) ?_ ?_
      · rw [htree]
        exact Tree.changes_put_file hne hdir rfl
      · rw [hsink]
  cases h with
  | unnamed => exact hready
  | unrendered => exact hready
  | skipped => exact hready
  | previewed => exact hready
  | unwritten _ _ _ hsave =>
    have hthere := hsaved hsave hready
    exact hthere
  | written _ _ _ hsave =>
    have hthere := hsaved hsave hready
    exact hthere

namespace Work

theorem ensureDirectory_of_isSettled (h : b.IsSettled) :
    ensureDirectory b = (.ok b.sink.outputDir, b) := by
  rw [ensureDirectory_run, Action.makeDirectories_of_isDirectory h]

/-- Whether the output directory is known to be there makes no difference when it is. -/
theorem save_of_isSettled (hk : k.IsOnTree spoils) (h : b.IsSettled) (ready : Bool) (t : Target)
    (text : String) : save k ready t text b = save k true t text b := by
  cases ready with
  | true => rfl
  | false =>
    have hmade : guarded k.ensureDirectory b = (.ok (.ok b.sink.outputDir), b) := by
      rw [hk.ensureDirectory, guarded_run, ensureDirectory_of_isSettled h]
    change (guarded k.ensureDirectory >>= _) b = _
    rw [bind_run, hmade]
    rfl

theorem finish_of_isSettled (hk : k.IsOnTree spoils) (h : b.IsSettled) (ready : Bool) (s : Source)
    (t : Target) (dropped : List Dropped) (text : String) :
    (Prod.snd <$> finish k o ready s t dropped text) b =
      (Prod.snd <$> finish k o true s t dropped text) b := by
  unfold finish
  cases o.dryRun with
  | true => rfl
  | false =>
    simp only [Bool.false_eq_true, if_false, map_bind]
    rw [bind_run, bind_run, save_of_isSettled hk h]

theorem handle_of_isSettled (hk : k.IsOnTree spoils) (h : b.IsSettled) (ready : Bool) :
    (Prod.snd <$> handle k c o ready s) b = (Prod.snd <$> handle k c o true s) b := by
  unfold handle
  cases c.naming.target s with
  | error f => rfl
  | ok t =>
    simp only [map_bind, note_bind_run, get_bind_run, Bench.logged_templates,
      Bench.logged_logged, keepStandard_bind_run]
    cases draft (b.templates c) t s.extract with
    | error f => rfl
    | ok d =>
      cases d with
      | unrendered error => rfl
      | empty => rfl
      | ready text =>
        simp only [map_bind, note_bind_run, Bench.logged_logged]
        have hrendered : (b.rendered c s t).IsSettled := h
        exact finish_of_isSettled hk hrendered ready s t s.extract.dropped text

theorem handleAll_of_isSettled (hk : k.IsOnTree spoils) (h : b.IsSettled) (ready : Bool) :
    handleAll k c o ready candidates b = handleAll k c o true candidates b := by
  induction candidates generalizing ready b with
  | nil => rfl
  | cons s rest ih =>
    have hhandle := handle_of_isSettled (c := c) (o := o) (s := s) hk h ready
    simp only [handleAll]
    rw [map_run, map_run] at hhandle
    rw [bind_run, bind_run]
    -- up to the flag both end alike, and go on from one bench
    rcases hfirst : handle k c o ready s b with ⟨f | ⟨known, outcome⟩, b₁⟩
    · rcases hsecond : handle k c o true s b with ⟨f' | ⟨known', outcome'⟩, b₂⟩
      · rw [hfirst, hsecond] at hhandle
        cases hhandle
        rfl
      · rw [hfirst, hsecond] at hhandle
        cases hhandle
    · rcases hsecond : handle k c o true s b with ⟨f' | ⟨known', outcome'⟩, b₂⟩
      · rw [hfirst, hsecond] at hhandle
        cases hhandle
      · rw [hfirst, hsecond] at hhandle
        cases hhandle
        obtain ⟨hchanges, hdir, -⟩ := (treated_of_handle hfirst).changes hk
        have hsettled : b₁.IsSettled := h.of_changes _ _ hchanges hdir
        simp only [bind_run, ih hsettled known, ih hsettled known']

/-- Candidates are handled in pieces as they are handled at once, also when it has been forgotten
that the output directory is there. -/
theorem handleAll_append (hk : k.IsOnTree spoils) {xs ys : List Source}
    (h : ready = true → b.IsSettled) :
    handleAll k c o ready (xs ++ ys) b =
      (do
        let first ← handleAll k c o ready xs
        let rest ← handleAll k c o false ys
        return first ++ rest : Work (List Outcome)) b := by
  induction xs generalizing ready b with
  | nil =>
    -- here the second piece begins, and forgets the directory
    have hready : handleAll k c o ready ys b = handleAll k c o false ys b := by
      cases ready with
      | false => rfl
      | true => rw [handleAll_of_isSettled hk (h rfl) false]
    simp only [List.nil_append, handleAll, pure_bind, bind_pure]
    exact hready
  | cons s rest ih =>
    simp only [List.cons_append, handleAll, bind_assoc, pure_bind]
    rw [bind_run, bind_run]
    rcases hhandle : handle k c o ready s b with ⟨f | ⟨known, outcome⟩, b₁⟩
    · rfl
    · have hknown : known = true → b₁.IsSettled := (treated_of_handle hhandle).isSettled hk h
      simp only [bind_run, ih hknown]
      rcases handleAll k c o known rest b₁ with ⟨f | first, b₂⟩
      · rfl
      · simp only
        rcases handleAll k c o false ys b₂ with ⟨f | last, b₃⟩ <;> rfl

end Work

end Settled

/-! ## Runs in pieces -/

namespace Work

variable {α : Type} {k : Outlet} {spoils : Prop} {c : Config} {o : Options} {xs ys : List Source}
  {b b' : Bench} {report : Report}

theorem agrees_note (records : List LogRecord) (b : Bench) : (note records b).2.Agrees b :=
  ⟨rfl, rfl, rfl, rfl, rfl⟩

/-- Announcing what waits for it makes no difference to what has been written. -/
theorem agrees_refresh (b : Bench) : (refresh b).2.Agrees b := by
  refine ⟨rfl, rfl, rfl, rfl, ?_⟩
  change (b.announced ++ [b.sink.pending]).flatten ++ [] = b.announced.flatten ++ b.sink.pending
  simp

/-- A batch that raises no failures, up to what it does after its last candidate. -/
def conclusion (k : Outlet) (c : Config) (o : Options) (candidates : List Source) :
    Work Conclusion := do
  return .returned ⟨← handleAll k c o false candidates⟩

/-- What a batch does after its last candidate makes no difference to the handling of others. -/
theorem generate_alike (hk : k.IsOnTree spoils) (candidates : List Source) (b : Bench) :
    Alike (generateTo k c o false candidates b) (conclusion k c o candidates b) := by
  have hreturned (report : Report) : report.conclude false = .returned report := by
    unfold Report.conclude
    cases report.fault? <;> rfl
  unfold generateTo runTo conclusion
  simp only [hreturned, bind_assoc, hk.refresh]
  rw [bind_run, bind_run]
  rcases handleAll k c o false candidates b with ⟨f | outcomes, b₁⟩
  · exact ⟨rfl, .refl _⟩
  · cases hempty : (Report.mk outcomes).written.isEmpty with
    | true =>
      simp only [hempty]
      exact ⟨rfl, agrees_note _ _⟩
    | false =>
      simp only [hempty]
      exact ⟨rfl, (agrees_note _ _).trans (agrees_refresh _)⟩

/-- Runs two batches that raise no failures one after the other, and puts their reports together. -/
def generateInTurnTo (k : Outlet) (c : Config) (o : Options) (xs ys : List Source) :
    Work Conclusion := do
  let first ← generateTo k c o false xs
  let rest ← generateTo k c o false ys
  return .returned ⟨first.report.outcomes ++ rest.report.outcomes⟩

def generateInTurn (c : Config) (o : Options) (xs ys : List Source) : Work Conclusion :=
  generateInTurnTo .files c o xs ys

/-- Two batches in turn end as the handling of all their candidates does. -/
theorem generateInTurn_alike (hk : k.IsOnTree spoils) (hcovers : agreement.Covers k)
    (xs ys : List Source) (b : Bench) :
    Alike (generateInTurnTo k c o xs ys b) (conclusion k c o (xs ++ ys) b) := by
  have hforgotten : false = true → b.IsSettled := nofun
  have happend : conclusion k c o (xs ++ ys) b =
      (do
        let first ← conclusion k c o xs
        let rest ← conclusion k c o ys
        return .returned ⟨first.report.outcomes ++ rest.report.outcomes⟩ : Work Conclusion) b := by
    unfold conclusion
    rw [bind_run, handleAll_append hk hforgotten, ← bind_run]
    simp only [bind_assoc, pure_bind, Conclusion.report]
  rw [happend]
  refine (generate_alike hk xs b).bind fun first b' u' hagrees => ?_
  have hrespects : Respects (conclusion k c o ys) :=
    (respects_handleAll hcovers).bind fun _ => respects_pure _
  exact ((generate_alike hk ys b').trans (hrespects b' u' hagrees)).bind
    fun rest b'' u'' hagrees' => ⟨rfl, hagrees'⟩

end Work

section Main

variable {k : Outlet} {spoils : Prop} {c : Config} {o : Options} {ready raiseOnError : Bool}
  {candidates : List Source} {outcomes : List Outcome} {b b' : Bench} {conclusion : Conclusion}

/-- A sink is not changed unless something is written. -/
theorem sink_of_handleAll (hk : k.IsOnTree spoils)
    (h : Work.handleAll k c o ready candidates b = (.ok outcomes, b'))
    (hnot : ∀ x ∈ outcomes, x.status ≠ .written) : b'.sink = b.sink := by
  induction candidates generalizing ready b outcomes with
  | nil =>
    obtain ⟨-, rfl⟩ := pure_run_ok.mp h
    rfl
  | cons s rest ih =>
    obtain ⟨ready', outcome, outcomes', b₁, hhandle, hrest, rfl⟩ := Work.handleAll_cons_run_ok.mp h
    obtain ⟨hfirst, hothers⟩ := List.forall_mem_cons.mp hnot
    obtain ⟨-, -, -, hsink⟩ := (Work.treated_of_handle hhandle).changes hk
    rw [ih hrest hothers, hsink hfirst]

theorem Report.written_isEmpty (r : Report) :
    r.written.isEmpty = true ↔ ∀ x ∈ r.outcomes, x.status ≠ .written := by
  simp [written, withStatus]

/-- After a batch nothing waits to be announced, unless nothing was written. -/
theorem pending_of_generate (hk : k.IsOnTree spoils)
    (h : Work.generateTo k c o raiseOnError candidates b = (.ok conclusion, b')) :
    b'.sink.pending =
      if conclusion.report.written.isEmpty then b.sink.pending else [] := by
  obtain ⟨report, hrun, rfl⟩ := generateTo_run_ok.mp h
  rw [report.report_conclude]
  unfold Work.runTo at hrun
  rw [hk.refresh] at hrun
  obtain ⟨outcomes, b₁, hall, hrun⟩ := bind_run_ok.mp hrun
  cases hempty : (Report.mk outcomes).written.isEmpty with
  | true =>
    simp only [hempty] at hrun
    obtain ⟨rfl, records, rfl⟩ := Work.say_return_run_ok hrun
    have hsink := sink_of_handleAll hk hall ((Report.written_isEmpty _).mp hempty)
    rw [hempty]
    exact congrArg Sink.pending hsink
  | false =>
    simp only [hempty] at hrun
    obtain ⟨paths, b₂, hrefresh, hrun⟩ := bind_run_ok.mp hrun
    obtain ⟨rfl, records, rfl⟩ := Work.say_return_run_ok hrun
    cases hrefresh
    rw [hempty]
    rfl

/-- What waits to be announced after two batches in turn waits for it after both at once. -/
theorem pending_of_generateInTurn (hk : k.IsOnTree spoils) {xs ys : List Source}
    (h : Work.generateInTurnTo k c o xs ys b = (.ok conclusion, b')) :
    b'.sink.pending =
      if conclusion.report.written.isEmpty then b.sink.pending else [] := by
  obtain ⟨first, b₁, hfirst, h⟩ := bind_run_ok.mp h
  obtain ⟨rest, b₂, hrest, h⟩ := bind_run_ok.mp h
  obtain ⟨rfl, rfl⟩ := pure_run_ok.mp h
  have happend : (Report.mk (first.report.outcomes ++ rest.report.outcomes)).written =
      first.report.written ++ rest.report.written :=
    List.filter_append ..
  rw [pending_of_generate hk hrest, pending_of_generate hk hfirst, Conclusion.report, happend]
  cases first.report.written <;> cases rest.report.written <;> rfl

/-- On every sink whose writes do not look at the log or at what was announced, a batch is the
sequence of its pieces, whatever its failing writes leave in their files. -/
theorem generateTo_append (hk : k.IsOnTree spoils)
    (hwrite : ∀ name text, Work.Respects (k.write name text)) (c : Config) (o : Options)
    (xs ys : List Source) (b : Bench) :
    let whole := Work.generateTo k c o false (xs ++ ys) b
    let pieces := Work.generateInTurnTo k c o xs ys b
    whole.1 = pieces.1 ∧ whole.2.tree = pieces.2.tree ∧
      ∀ conclusion, whole.1 = .ok conclusion →
        whole.2.sink = pieces.2.sink ∧
          whole.2.announced.flatten = pieces.2.announced.flatten := by
  intro whole pieces
  obtain ⟨hanswer, hagrees⟩ := (Work.generate_alike hk (xs ++ ys) b).trans
    (Work.generateInTurn_alike hk (Work.covers_of_isOnTree hk hwrite) xs ys b).symm
  refine ⟨hanswer, hagrees.tree, fun conclusion hok => ?_⟩
  have hwhole : whole = (.ok conclusion, whole.2) := eq_mk_of_fst_eq hok
  have hpieces : pieces = (.ok conclusion, pieces.2) := eq_mk_of_fst_eq (hanswer ▸ hok)
  have hpending : whole.2.sink.pending = pieces.2.sink.pending := by
    rw [pending_of_generate hk hwhole, pending_of_generateInTurn hk hpieces]
  have hhanded : whole.2.handed = pieces.2.handed := hagrees.handed
  rw [Bench.handed, Bench.handed, hpending] at hhanded
  exact ⟨Sink.ext hagrees.outputDir hagrees.readOnly hpending, List.append_cancel_right hhanded⟩

/-- On a tree on which writes may break off a batch is the sequence of its pieces. -/
theorem generateTo_append_breaking (breaks : Path → String → Tree → Option (Fault × String))
    (c : Config) (o : Options) (xs ys : List Source) (b : Bench) :
    let whole := Work.generateTo (.breaking breaks) c o false (xs ++ ys) b
    let pieces := Work.generateInTurnTo (.breaking breaks) c o xs ys b
    whole.1 = pieces.1 ∧ whole.2.tree = pieces.2.tree ∧
      ∀ conclusion, whole.1 = .ok conclusion →
        whole.2.sink = pieces.2.sink ∧
          whole.2.announced.flatten = pieces.2.announced.flatten :=
  generateTo_append (Outlet.isOnTree_ofTree _) (Work.respects_write_breaking breaks) c o xs ys b

/-- A batch that raises no failures is the sequence of its pieces, wherever it is cut. Both end with
the same answer and leave the same files. When they end with a report, the sink has the same paths
waiting, and the same paths were announced in the same order. -/
theorem generate_append (c : Config) (o : Options) (xs ys : List Source) (b : Bench) :
    let whole := Work.generate c o false (xs ++ ys) b
    let pieces := Work.generateInTurn c o xs ys b
    whole.1 = pieces.1 ∧ whole.2.tree = pieces.2.tree ∧
      ∀ conclusion, whole.1 = .ok conclusion →
        whole.2.sink = pieces.2.sink ∧
          whole.2.announced.flatten = pieces.2.announced.flatten :=
  generateTo_append Outlet.isOnTree_files Work.respects_write c o xs ys b

end Main

end StructForge.Batch

import StructForge.Proofs.Batch.Accounting
import StructForge.Proofs.Batch.Effects
import StructForge.Proofs.Batch.LinkedTree

/-! # Sinks whose writes fail half-way

A write that fails may have emptied its file, or filled a part of it. A sink with such writes makes
directories, ends its other writes and announces them as the plain one does; it is said here what it
leaves of a tree. -/

namespace StructForge.Batch

open Files Schema Struct

/-- A sink on the tree of a bench. It does what the plain one does, but for writes that fail: they
leave the bench as it is, or, if `spoils` holds, another content in the file of their path. -/
structure Outlet.IsOnTree (k : Outlet) (spoils : Prop) : Prop where
  directory : k.directory = (·.sink.outputDir)
  ensureDirectory : k.ensureDirectory = Work.ensureDirectory
  refresh : k.refresh = Work.refresh
  written : ∀ {name text : String} {b b' : Bench} {path : Path},
    k.write name text b = (.ok path, b') → Work.write name text b = (.ok path, b')
  failed : ∀ {name text : String} {b b' : Bench} {f : Fault},
    k.write name text b = (.error f, b') → b' = b ∨
      spoils ∧ ∃ place left, b.tree.Writable (b.sink.outputDir.child name) place ∧
        b' = { b with tree := b.tree.put place (.file left) }

theorem Outlet.isOnTree_files : Outlet.files.IsOnTree False where
  directory := rfl
  ensureDirectory := rfl
  refresh := rfl
  written := id
  failed {name text b b' f} h := by
    obtain ⟨htree, -⟩ := Work.write_run_error h
    change Work.write name text b = _ at h
    rw [Work.write_run] at h
    split at h
    · cases h
      exact .inl rfl
    · split at h
      · cases h
      · cases h
        exact .inl (congrArg (fun tree => { b with tree }) htree)

section Breaking

variable {breaks : Path → String → Bench → Option (Fault × String)} {b b' : Bench}
  {name text : String} {f : Fault}

theorem Disk.makeUp_congr (d d' : Disk) (hmake : d.makeDirectory = d'.makeDirectory)
    (hask : d.isDirectory = d'.isDirectory) (anchor : Anchor) (names : List String) :
    d.makeUp anchor names = d'.makeUp anchor names := by
  have haccept : d.acceptDirectory = d'.acceptDirectory := by
    unfold Disk.acceptDirectory
    rw [hask]
  induction names with
  | nil => simp only [Disk.makeUp, hmake, haccept]
  | cons name above ih => simp only [Disk.makeUp, hmake, haccept, ih]

theorem Disk.write_ofTree_eq (breaks : Path → String → Bench → Option (Fault × String))
    (h : breaks (b.sink.outputDir.child name) text b = none) :
    (Disk.ofTree id breaks).write name text b = Work.write name text b := by
  have hplain : Disk.tree.write = Work.write := congrArg Outlet.write Outlet.onDisk_tree
  rw [← hplain]
  unfold Disk.write
  rw [get_bind_run, get_bind_run]
  split
  · rfl
  · rw [bind_run, bind_run, Disk.overwrite_ofTree, h, Disk.tree, Disk.overwrite_ofTree]

/-- A write that breaks off leaves its text in the file of its path, if there can be one. -/
theorem Disk.write_ofTree_of_break {left : String} {fault : Fault}
    (h : breaks (b.sink.outputDir.child name) text b = some (fault, left)) :
    ∃ f tree, (Disk.ofTree id breaks).write name text b = (.error f, { b with tree }) ∧
      (tree = b.tree ∨ ∃ place, b.tree.Writable (b.sink.outputDir.child name) place ∧
        tree = b.tree.put place (.file left.toUTF8)) := by
  unfold Disk.write
  rw [get_bind_run]
  split
  · exact ⟨_, b.tree, rfl, .inl rfl⟩
  · rw [bind_run, Disk.overwrite_ofTree, h]
    simp only [id]
    rw [bind_run, Work.act_run]
    rcases hwrite : Action.writeText (b.sink.outputDir.child name) left b.tree with ⟨f | ⟨⟩, tree⟩
    · exact ⟨f, tree, rfl, .inl (Action.writeText_run_error hwrite)⟩
    · obtain ⟨-, place, hplace, rfl⟩ := Action.writeText_run_ok.mp hwrite
      exact ⟨fault, _, rfl, .inr ⟨place, hplace, rfl⟩⟩

/-- A tree on which writes may break off is one on which only writes that fail go otherwise. -/
theorem Outlet.isOnTree_ofTree (breaks : Path → String → Bench → Option (Fault × String)) :
    (Outlet.onDisk (.ofTree id breaks)).IsOnTree (∃ p text b, breaks p text b ≠ none) where
  directory := rfl
  ensureDirectory := by
    have hplain : Disk.tree.ensureDirectory = Work.ensureDirectory :=
      congrArg Outlet.ensureDirectory Outlet.onDisk_tree
    rw [← hplain]
    change (Disk.ofTree id breaks).ensureDirectory = _
    unfold Disk.ensureDirectory
    simp only [Disk.makeUp_congr (.ofTree id breaks) .tree rfl rfl]
  refresh := rfl
  written {name text b b' path} h := by
    change (Disk.ofTree id breaks).write name text b = _ at h
    cases hbreak : breaks (b.sink.outputDir.child name) text b with
    | none => rwa [Disk.write_ofTree_eq breaks hbreak] at h
    | some fault =>
      obtain ⟨f, tree, hwrite, -⟩ := Disk.write_ofTree_of_break hbreak
      rw [hwrite] at h
      cases h
  failed {name text b b' f} h := by
    change (Disk.ofTree id breaks).write name text b = _ at h
    cases hbreak : breaks (b.sink.outputDir.child name) text b with
    | none =>
      rw [Disk.write_ofTree_eq breaks hbreak] at h
      exact (Outlet.isOnTree_files.failed h).imp_right fun hspoiled => hspoiled.1.elim
    | some fault =>
      obtain ⟨f', tree, hwrite, htree⟩ := Disk.write_ofTree_of_break hbreak
      rw [hwrite] at h
      cases h
      rcases htree with rfl | ⟨place, hplace, rfl⟩
      · exact .inl rfl
      · exact .inr ⟨⟨_, _, _, by rw [hbreak]; nofun⟩, place, _, hplace, rfl⟩

/-- The tree of a bench as a disk on which writes break off by what is in the tree. -/
def Disk.breaking (breaks : Path → String → Tree → Option (Fault × String)) : Disk :=
  .ofTree id fun p text b => breaks p text b.tree

def Outlet.breaking (breaks : Path → String → Tree → Option (Fault × String)) : Outlet :=
  .onDisk (.breaking breaks)

end Breaking

/-! ## What handling a candidate leaves -/

section Treatment

variable {k : Outlet} {spoils : Prop} {c : Config} {o : Options} {ready ready' : Bool} {s : Source}
  {b b' b₁ : Bench} {outcome : Outcome} {name text : String} {path : Path} {f : Fault}

theorem Outlet.IsOnTree.readies (hk : k.IsOnTree spoils) (h : k.Readies ready b b₁) :
    Outlet.files.Readies ready b b₁ := by
  cases h with
  | known hready => exact .known hready
  | made hready hmade =>
    rw [hk.ensureDirectory] at hmade
    exact .made hready hmade

/-- A text that is saved is saved by the plain sink too. -/
theorem Outlet.IsOnTree.saves (hk : k.IsOnTree spoils)
    (h : k.Saves ready name text b ready' (.ok path) b') :
    Outlet.files.Saves ready name text b ready' (.ok path) b' := by
  cases h with
  | written hready hwrite => exact .written (hk.readies hready) (hk.written hwrite)

theorem Bench.changes_of_readies (written : Location → Prop)
    (h : Outlet.files.Readies ready b b₁) :
    b.tree.Changes b₁.tree written (b.sink.outputDir.LeadsThrough b.tree.here) ∧
      b₁.sink = b.sink := by
  obtain ⟨hprep, hsink⟩ := Work.prepared_of_readies h
  exact ⟨hprep.changes, hsink⟩

/-- A text that is not saved changes at most the file of its path, and that only if failing writes
can spoil files. -/
theorem Outlet.IsOnTree.changes_of_error (hk : k.IsOnTree spoils)
    (h : k.Saves ready name text b ready' (.error f) b') :
    b'.sink = b.sink ∧ b.tree.Changes b'.tree
      (fun place => spoils ∧ (b.sink.outputDir.child name).locate b.tree.here = place)
      (b.sink.outputDir.LeadsThrough b.tree.here) := by
  cases h with
  | noDirectory hready hmade =>
    rw [hk.ensureDirectory] at hmade
    obtain ⟨htree, hsink⟩ := Work.ensureDirectory_run_error hmade
    have hchanges := Action.makeDirectories_isMaking b.sink.outputDir b.tree
    rw [htree] at hchanges
    exact ⟨hsink, hchanges.mono (fun _ => False.elim) fun _ => id⟩
  | unwritten hready hwrite =>
    obtain ⟨hchanges, hsink⟩ := Bench.changes_of_readies
      (fun place => spoils ∧ (b.sink.outputDir.child name).locate b.tree.here = place)
      (hk.readies hready)
    rcases hk.failed hwrite with rfl | ⟨hspoils, place, left, hplace, rfl⟩
    · exact ⟨hsink, hchanges⟩
    · obtain ⟨hne, hdir⟩ := hplace.find?_ne
      refine ⟨hsink, hchanges.trans (Tree.changes_put_file hne hdir ⟨hspoils, ?_⟩)⟩
      rw [hplace.eq_locate, hsink, hchanges.here]

/-- The places of files that handling a candidate may change: that of a written outcome, and that of
a text which could not be written if failing writes can spoil files. -/
def Outcome.Changes (directory : Path) (here : Location) (spoils : Prop) (x : Outcome)
    (place : Location) : Prop :=
  x.IsWrittenAt here place ∨
    spoils ∧ x.FailsAt (fun p => some (p.locate here)) directory place

/-- Handling a candidate changes files where its outcome says, and makes directories on the way to
the output directory. The sink stays as it is unless a text is written. -/
theorem Treated.changes (hk : k.IsOnTree spoils) (h : Treated k c o ready s b ready' outcome b') :
    b.tree.Changes b'.tree (outcome.Changes b.sink.outputDir b.tree.here spoils)
        (b.sink.outputDir.LeadsThrough b.tree.here) ∧
      b'.sink.outputDir = b.sink.outputDir ∧ b'.sink.readOnly = b.sink.readOnly ∧
      (outcome.status ≠ .written → b'.sink = b.sink) := by
  cases h with
  | unnamed => exact ⟨.refl _ _ _, rfl, rfl, fun _ => rfl⟩
  | unrendered => exact ⟨.refl _ _ _, rfl, rfl, fun _ => rfl⟩
  | skipped => exact ⟨.refl _ _ _, rfl, rfl, fun _ => rfl⟩
  | previewed => exact ⟨.refl _ _ _, rfl, rfl, fun _ => rfl⟩
  | unwritten _ _ _ hsave =>
    obtain ⟨hsink, hchanges⟩ := hk.changes_of_error hsave
    refine ⟨hchanges.mono ?_ fun _ => id, congrArg Sink.outputDir hsink,
      congrArg Sink.readOnly hsink, fun _ => hsink⟩
    rintro place ⟨hspoils, rfl⟩
    exact .inr ⟨hspoils, rfl, rfl, _, rfl, rfl⟩
  | written _ _ _ hsave =>
    cases hk.saves hsave with
    | written hready hwrite =>
      obtain ⟨hchanges, hsink⟩ := Bench.changes_of_readies _ hready
      obtain ⟨-, rfl, htext, hsink'⟩ := Work.write_run_ok hwrite
      obtain ⟨-, place, hplace, htree⟩ := Action.writeText_run_ok.mp htext
      obtain ⟨hne, hdir⟩ := hplace.find?_ne
      rw [hsink] at hplace hsink'
      rw [Bench.logged_tree, Bench.logged_sink, htree, hsink']
      refine ⟨hchanges.trans ?_, rfl, rfl, fun hnot => absurd rfl hnot⟩
      refine Tree.changes_put_file hne hdir (.inl ⟨rfl, ?_⟩)
      rw [hplace.eq_locate, hchanges.here, ← hsink]
      rfl

end Treatment

/-! ## Runs in which no write fails -/

def AllSaved (outcomes : List Outcome) : Prop :=
  ∀ x ∈ outcomes, x.text?.isSome = true → x.status = .written

section Plain

variable {k : Outlet} {spoils : Prop} {c : Config} {o : Options} {ready ready' raiseOnError : Bool}
  {s : Source} {t : Target} {dropped : List Dropped} {text : String} {candidates : List Source}
  {outcome : Outcome} {outcomes : List Outcome} {b b' : Bench} {answer : Except Fault Path}
  {conclusion : Conclusion}

theorem Work.save_of_saves (h : k.Saves ready t.fileName text b ready' answer b') :
    save k ready t text b = (.ok (ready', answer), b') := by
  have hwritten {b₁ : Bench} (hready : k.Readies ready b b₁)
      (hwrite : guarded (k.write t.fileName text) b₁ = (.ok answer, b')) :
      save k ready t text b = (.ok (true, answer), b') := by
    unfold save
    cases hready with
    | known hready =>
      subst hready
      exact bind_run_ok.mpr ⟨answer, b', hwrite, rfl⟩
    | @made dir _ hready hmade =>
      subst hready
      have hguarded : guarded k.ensureDirectory b = (.ok (.ok dir), b₁) := by
        rw [guarded_run, hmade]
      exact bind_run_ok.mpr ⟨_, b₁, hguarded, bind_run_ok.mpr ⟨answer, b', hwrite, rfl⟩⟩
  cases h with
  | @noDirectory f _ hready hmade hos =>
    subst hready
    have hguarded : guarded k.ensureDirectory b = (.ok (.error f), b') := by
      rw [guarded_run, hmade]
      exact if_pos hos
    exact bind_run_ok.mpr ⟨_, b', hguarded, rfl⟩
  | unwritten hready hwrite hos =>
    refine hwritten hready ?_
    rw [guarded_run, hwrite]
    exact if_pos hos
  | written hready hwrite =>
    refine hwritten hready ?_
    rw [guarded_run, hwrite]

/-- A candidate whose text is saved, if it has one, is handled as on the plain sink. -/
theorem Work.finish_plain (hk : k.IsOnTree spoils)
    (h : finish k o ready s t dropped text b = (.ok (ready', outcome), b'))
    (hsaved : outcome.text?.isSome = true → outcome.status = .written) :
    finish .files o ready s t dropped text b = (.ok (ready', outcome), b') := by
  unfold finish at h ⊢
  cases hdry : o.dryRun with
  | true =>
    rw [hdry, if_pos rfl] at h
    cases h
    cases hsaved rfl
  | false =>
    rw [hdry, if_neg Bool.false_ne_true] at h
    rw [if_neg Bool.false_ne_true]
    obtain ⟨⟨known, answer⟩, b₁, hsave, h⟩ := bind_run_ok.mp h
    cases answer with
    | error f =>
      obtain ⟨hpair, -⟩ := say_return_run_ok h
      cases hpair
      cases hsaved rfl
    | ok path =>
      exact bind_run_ok.mpr
        ⟨(known, .ok path), b₁, save_of_saves (hk.saves (save_run_ok hsave)), h⟩

theorem Work.handle_plain (hk : k.IsOnTree spoils)
    (h : handle k c o ready s b = (.ok (ready', outcome), b'))
    (hsaved : outcome.text?.isSome = true → outcome.status = .written) :
    handle .files c o ready s b = (.ok (ready', outcome), b') := by
  unfold handle at h ⊢
  cases hname : c.naming.target s with
  | error f =>
    rw [hname] at h
    exact h
  | ok t =>
    rw [hname] at h
    simp only [note_bind_run, get_bind_run, Bench.logged_templates, Bench.logged_logged,
      keepStandard_bind_run] at h ⊢
    cases hdraft : draft (b.templates c) t s.extract with
    | error f =>
      rw [hdraft] at h
      exact h
    | ok d =>
      rw [hdraft] at h
      cases d with
      | unrendered error => exact h
      | empty => exact h
      | ready text =>
        simp only [note_bind_run] at h ⊢
        exact finish_plain hk h hsaved

theorem Work.handleAll_plain (hk : k.IsOnTree spoils)
    (h : handleAll k c o ready candidates b = (.ok outcomes, b')) (hsaved : AllSaved outcomes) :
    handleAll .files c o ready candidates b = (.ok outcomes, b') := by
  induction candidates generalizing ready b outcomes with
  | nil => exact h
  | cons s rest ih =>
    obtain ⟨ready', outcome, outcomes', b₁, hhandle, hrest, rfl⟩ := handleAll_cons_run_ok.mp h
    obtain ⟨hfirst, hothers⟩ := List.forall_mem_cons.mp hsaved
    exact handleAll_cons_run_ok.mpr
      ⟨ready', outcome, outcomes', b₁, handle_plain hk hhandle hfirst, ih hrest hothers, rfl⟩

/-- A batch whose texts are all saved is the batch of the plain sink. -/
theorem generate_plain (hk : k.IsOnTree spoils)
    (h : Work.generateTo k c o raiseOnError candidates b = (.ok conclusion, b'))
    (hsaved : AllSaved conclusion.report.outcomes) :
    Work.generate c o raiseOnError candidates b = (.ok conclusion, b') := by
  obtain ⟨report, hrun, rfl⟩ := generateTo_run_ok.mp h
  rw [report.report_conclude] at hsaved
  refine generateTo_run_ok.mpr ⟨report, ?_, rfl⟩
  unfold Work.runTo at hrun ⊢
  rw [hk.refresh] at hrun
  obtain ⟨outcomes, b₁, hall, hrun⟩ := bind_run_ok.mp hrun
  have hreport : outcomes = report.outcomes := by
    cases hempty : (Report.mk outcomes).written.isEmpty with
    | true =>
      simp only [hempty] at hrun
      rw [← (Work.say_return_run_ok hrun).1]
    | false =>
      simp only [hempty] at hrun
      obtain ⟨_, _, -, hrun⟩ := bind_run_ok.mp hrun
      rw [← (Work.say_return_run_ok hrun).1]
  rw [← hreport] at hsaved
  exact bind_run_ok.mpr ⟨outcomes, b₁, Work.handleAll_plain hk hall hsaved, hrun⟩

end Plain

end StructForge.Batch

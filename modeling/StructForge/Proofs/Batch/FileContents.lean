import StructForge.Proofs.Batch.Accounting
import StructForge.Proofs.Batch.LinkedTree

/-! # What a run leaves in its files

A file that a run writes holds the text of the last outcome whose path denotes it, unless a later
write to it failed and spoiled it, or records of the log go into it. Where the names of a batch
denote different files, only a later candidate of the same name can take the place of a text. -/

namespace StructForge.Batch

open Files Schema Struct

section LastText

variable {ι : Type} [DecidableEq ι]

def Outcome.textIn? (node? : Path → Option ι) (i : ι) : Outcome → Option String
  | .written _ _ _ path text => if node? path = some i then some text else none
  | _ => none

def lastText? (node? : Path → Option ι) (i : ι) (outcomes : List Outcome) : Option String :=
  outcomes.reverse.findSome? (·.textIn? node? i)

theorem lastText?_cons (node? : Path → Option ι) (i : ι) (outcome : Outcome)
    (outcomes : List Outcome) :
    lastText? node? i (outcome :: outcomes) =
      (lastText? node? i outcomes).or (outcome.textIn? node? i) := by
  simp [lastText?, List.findSome?_append]

theorem lastText?_eq_none {node? : Path → Option ι} {i : ι} {outcomes : List Outcome}
    (h : ∀ x ∈ outcomes, ¬x.IsWrittenTo node? i) : lastText? node? i outcomes = none := by
  unfold lastText?
  rw [List.findSome?_eq_none_iff]
  intro x hx
  have hx := h x (List.mem_reverse.mp hx)
  cases x with
  | written source t dropped path text => exact if_neg fun hnode => hx ⟨rfl, path, rfl, hnode⟩
  | _ => rfl

end LastText

section Steps

variable {ι : Type} [DecidableEq ι] {d : Disk} {v : Volume ι} {spoils : Prop} {c : Config}
  {o : Options} {ready ready' : Bool} {s : Source} {candidates : List Source} {b b' : Bench}
  {outcome : Outcome} {outcomes : List Outcome} {node? : Path → Option ι} {i : ι}
  {content : ByteArray}

/-- A file holds, after a candidate, the text that the candidate left there, and else what it held
before. -/
theorem Disk.Shows.file_of_treated (hd : d.Shows v spoils)
    (h : Treated (.onDisk d) c o ready s b ready' outcome b')
    (hlater : ∀ p j, v.node? b' p = some j → node? p = some j) (hjournal : ¬v.isJournal i)
    (hfails : spoils → ¬outcome.FailsAt node? b.sink.outputDir i)
    (hfile : v.holds? b i = some (.file content)) :
    v.holds? b' i = some (.file (((outcome.textIn? node? i).map (·.toUTF8)).getD content)) := by
  obtain ⟨-, hmoves, hwritten⟩ := hd.treated h
  have hkept (hnot : ¬outcome.IsWrittenTo node? i) : v.holds? b' i = some (.file content) := by
    refine (hmoves.file_iff hjournal (fun p hp hnode => ?_) content).mpr hfile
    rcases hp.written_or_fails (hlater p i hnode) with hw | ⟨hspoils, hf⟩
    · exact hnot hw
    · exact hfails hspoils hf
  cases outcome with
  | written source t dropped path text =>
    obtain ⟨-, -, -, j, hnode, htext⟩ := hwritten _ _ _ _ _ rfl
    by_cases heq : node? path = some i
    · obtain rfl : j = i := Option.some.inj ((hlater path j hnode).symm.trans heq)
      rw [htext hjournal, Outcome.textIn?, if_pos heq]
      rfl
    · rw [Outcome.textIn?, if_neg heq]
      refine hkept ?_
      rintro ⟨-, p, ⟨⟩, hp⟩
      exact heq hp
  | _ =>
    refine hkept ?_
    rintro ⟨⟨⟩, -⟩

/-- A file holds, after some candidates, the last text that one of them left there, and else what it
held before. -/
theorem Disk.Shows.file_of_handleAll (hd : d.Shows v spoils)
    (h : Work.handleAll (.onDisk d) c o ready candidates b = (.ok outcomes, b'))
    (hlater : ∀ p j, v.node? b' p = some j → node? p = some j) (hjournal : ¬v.isJournal i)
    (hfails : spoils → ∀ x ∈ outcomes, ¬x.FailsAt node? b.sink.outputDir i)
    (hfile : v.holds? b i = some (.file content)) :
    v.holds? b' i =
      some (.file (((lastText? node? i outcomes).map (·.toUTF8)).getD content)) := by
  induction candidates generalizing ready b outcomes content with
  | nil =>
    obtain ⟨rfl, rfl⟩ := pure_run_ok.mp h
    exact hfile
  | cons s rest ih =>
    obtain ⟨ready', outcome, outcomes', b₁, hhandle, hrest, rfl⟩ := Work.handleAll_cons_run_ok.mp h
    have htreated := Work.treated_of_handle hhandle
    have hdir := (hd.treated htreated).1
    have hnodes := (hd.handleAll hrest).2.node?
    have hfirst := hd.file_of_treated htreated (fun p j hp => hlater p j (hnodes p j hp)) hjournal
      (fun hspoils => hfails hspoils outcome List.mem_cons_self) hfile
    rw [ih hrest (fun hspoils x hx => hdir ▸ hfails hspoils x (List.mem_cons_of_mem _ hx)) hfirst,
      lastText?_cons]
    congr 2
    cases lastText? node? i outcomes' <;> simp

omit [DecidableEq ι] in
theorem Disk.Shows.split_of_handleAll (hd : d.Shows v spoils) {before after : List Outcome}
    (h : Work.handleAll (.onDisk d) c o ready candidates b = (.ok outcomes, b'))
    (hsplit : outcomes = before ++ outcome :: after) :
    ∃ ready₁ ready₂ s rest b₁ b₂, b₁.sink.outputDir = b.sink.outputDir ∧
      Treated (.onDisk d) c o ready₁ s b₁ ready₂ outcome b₂ ∧
      Work.handleAll (.onDisk d) c o ready₂ rest b₂ = (.ok after, b') := by
  induction candidates generalizing ready b outcomes before with
  | nil =>
    obtain ⟨rfl, -⟩ := pure_run_ok.mp h
    simp at hsplit
  | cons s rest ih =>
    obtain ⟨ready', first, outcomes', b₁, hhandle, hrest, rfl⟩ := Work.handleAll_cons_run_ok.mp h
    have htreated := Work.treated_of_handle hhandle
    cases before with
    | nil =>
      obtain ⟨rfl, rfl⟩ := List.cons.inj hsplit
      exact ⟨_, _, _, _, _, _, rfl, htreated, hrest⟩
    | cons _ before =>
      obtain ⟨ready₁, ready₂, s', rest', b₂, b₃, hdir, hmiddle, hlast⟩ :=
        ih hrest (List.cons.inj hsplit).2
      exact ⟨ready₁, ready₂, s', rest', b₂, b₃, hdir.trans (hd.treated htreated).1, hmiddle, hlast⟩

omit [DecidableEq ι] in
theorem Disk.Shows.target_of_written (hd : d.Shows v spoils) {before after : List Outcome}
    {source text : String} {t : Target} {dropped : List Dropped} {path : Path}
    (h : Work.handleAll (.onDisk d) c o ready candidates b = (.ok outcomes, b'))
    (hsplit : outcomes = before ++ .written source t dropped path text :: after) :
    ∃ s : Source, source = s.name ∧ c.naming.target s = .ok t ∧
      path = b.sink.outputDir.child t.fileName := by
  obtain ⟨_, _, s, _, b₁, _, hdir, htreated, -⟩ := hd.split_of_handleAll h hsplit
  obtain ⟨hsource, hname, hpath, -⟩ := (hd.treated htreated).2.2 _ _ _ _ _ rfl
  exact ⟨s, hsource, hname, hdir ▸ hpath⟩

end Steps

section Names

variable {ι : Type} {k : Outlet} {c : Config} {o : Options} {ready ready' : Bool} {s s' : Source}
  {t : Target} {candidates : List Source} {b b' : Bench} {outcome : Outcome}
  {outcomes : List Outcome}

theorem Treated.target? (h : Treated k c o ready s b ready' outcome b') :
    outcome.source = s.name ∧ ∀ t, outcome.target? = some t → c.naming.target s = .ok t := by
  cases h with
  | unnamed => exact ⟨rfl, nofun⟩
  | unrendered hname => exact ⟨rfl, fun t ht => Option.some.inj ht ▸ hname⟩
  | skipped hname => exact ⟨rfl, fun t ht => Option.some.inj ht ▸ hname⟩
  | previewed hname => exact ⟨rfl, fun t ht => Option.some.inj ht ▸ hname⟩
  | unwritten hname => exact ⟨rfl, fun t ht => Option.some.inj ht ▸ hname⟩
  | written hname => exact ⟨rfl, fun t ht => Option.some.inj ht ▸ hname⟩

theorem exists_of_mem_handleAll
    (h : Work.handleAll k c o ready candidates b = (.ok outcomes, b')) :
    ∀ x ∈ outcomes, ∃ s ∈ candidates, x.source = s.name ∧
      ∀ t, x.target? = some t → c.naming.target s = .ok t := by
  induction candidates generalizing ready b outcomes with
  | nil =>
    obtain ⟨rfl, -⟩ := pure_run_ok.mp h
    exact nofun
  | cons s rest ih =>
    obtain ⟨ready', outcome, outcomes', b₁, hhandle, hrest, rfl⟩ := Work.handleAll_cons_run_ok.mp h
    rw [List.forall_mem_cons]
    refine ⟨⟨s, List.mem_cons_self, (Work.treated_of_handle hhandle).target?⟩, fun x hx => ?_⟩
    obtain ⟨s', hs', hsource⟩ := ih hrest x hx
    exact ⟨s', List.mem_cons_of_mem _ hs', hsource⟩

theorem fileName_ne_of_source_ne (h : Work.handleAll k c o ready candidates b = (.ok outcomes, b'))
    (hname : c.naming.target s = .ok t) {x : Outcome} (hx : x ∈ outcomes)
    (hne : x.source ≠ s.name) : ∀ t', x.target? = some t' → t'.fileName ≠ t.fileName := by
  obtain ⟨s', -, hsource, htarget⟩ := exists_of_mem_handleAll h x hx
  rintro t' ht' heq
  exact hne (hsource.trans (name_eq_of_fileName_eq (htarget t' ht') hname heq))

end Names

section Main

variable {ι : Type} [DecidableEq ι] {d : Disk} {v : Volume ι} {spoils : Prop} {c : Config}
  {o : Options} {b b' : Bench} {candidates : List Source} {report : Report}
  {before after : List Outcome} {source : String} {t : Target} {dropped : List Dropped}
  {path : Path} {text : String}

def Outcome.IsApart {ι : Type} (node? : Path → Option ι) (directory : Path) (i : ι) (t : Target)
    (x : Outcome) : Prop :=
  ∀ t', x.target? = some t' → t'.fileName = t.fileName ∨
    node? (directory.child t'.fileName) ≠ some i

/-- After a run the file of a written outcome holds the text that was written there last, unless a
later write there failed and spoiled it. -/
theorem Disk.Shows.holds_lastText (hd : d.Shows v spoils)
    (h : Work.runTo (.onDisk d) c o candidates b = (.ok report, b'))
    (hsplit : report.outcomes = before ++ .written source t dropped path text :: after) :
    ∃ i, v.node? b' path = some i ∧ (¬v.isJournal i →
      (spoils → ∀ x ∈ after, ¬x.FailsAt (v.node? b') b.sink.outputDir i) →
      v.holds? b' i = some (.file ((lastText? (v.node? b') i after).getD text).toUTF8)) := by
  obtain ⟨b₁, hall, htree⟩ := Work.runTo_onDisk_ok h
  obtain ⟨ready₁, ready₂, s, rest, b₂, b₃, hdir, htreated, hafter⟩ :=
    hd.split_of_handleAll hall hsplit
  obtain ⟨hdir', -, hwritten⟩ := hd.treated htreated
  obtain ⟨-, -, -, i, hnode, hfile⟩ := hwritten _ _ _ _ _ rfl
  have hquiet := hd.quiet b₁ b' htree
  have hnodes := (hd.handleAll hafter).2.node?
  refine ⟨i, hquiet.node? _ _ (hnodes _ _ hnode), fun hjournal hfails => ?_⟩
  rw [← hdir, ← hdir'] at hfails
  have hlast := hd.file_of_handleAll hafter (fun p j hp => hquiet.node? p j hp) hjournal hfails
    (hfile hjournal)
  rw [(hquiet.file_iff hjournal (fun _ => False.elim) _).mpr hlast]
  cases lastText? (v.node? b') i after <;> rfl

omit [DecidableEq ι] in
/-- Where the file names of a batch denote different files, no outcome of another name reaches the
file of a written one. -/
theorem Disk.Shows.not_reached (hd : d.Shows v spoils)
    (h : Work.runTo (.onDisk d) c o candidates b = (.ok report, b'))
    (hsplit : report.outcomes = before ++ .written source t dropped path text :: after)
    {node? : Path → Option ι} {i : ι}
    (hapart : ∀ x ∈ after, x.IsApart node? b.sink.outputDir i t)
    (hne : ∀ x ∈ after, x.source ≠ source) :
    ∀ x ∈ after, ¬x.IsWrittenTo node? i ∧ ¬x.FailsAt node? b.sink.outputDir i := by
  obtain ⟨b₁, hall, -⟩ := Work.runTo_onDisk_ok h
  obtain ⟨ready₁, ready₂, s, rest, b₂, b₃, hdir, htreated, hafter⟩ :=
    hd.split_of_handleAll hall hsplit
  obtain ⟨hdir', -, hwritten⟩ := hd.treated htreated
  obtain ⟨rfl, hname, -⟩ := hwritten _ _ _ _ _ rfl
  intro x hx
  have hother : ∀ t', x.target? = some t' →
      node? (b.sink.outputDir.child t'.fileName) ≠ some i := fun t' ht' =>
    (hapart x hx t' ht').resolve_left
      (fileName_ne_of_source_ne hafter hname hx (hne x hx) t' ht')
  constructor
  · rintro ⟨hstatus, p, hp, hnode⟩
    obtain ⟨before', after', hmem⟩ := List.append_of_mem hx
    cases x with
    | written source' t' dropped' path' text' =>
      obtain ⟨-, -, -, hpath⟩ := hd.target_of_written hafter hmem
      cases hp
      rw [hpath, hdir', hdir] at hnode
      exact hother t' rfl hnode
    | _ => cases hstatus
  · rintro ⟨-, -, t', ht', hnode⟩
    exact hother t' ht' hnode

/-- After a run the file of a written outcome, unless records of the log go into it, holds the text
of the last outcome that was written to it, or a write to it that failed later may have spoiled it.
So it holds the outcome's own text unless a later one is written there with another text; and where
no other file name of the batch denotes the file, only a candidate of the same name can do that. -/
theorem holds_written_of_run (hd : d.Shows v spoils)
    (h : Work.runTo (.onDisk d) c o candidates b = (.ok report, b'))
    (hsplit : report.outcomes = before ++ .written source t dropped path text :: after) :
    ∃ i, v.node? b' path = some i ∧ (¬v.isJournal i →
      let last := lastText? (v.node? b') i after
      ((spoils → ∀ x ∈ after, ¬x.FailsAt (v.node? b') b.sink.outputDir i) →
        v.holds? b' i = some (.file (last.getD text).toUTF8) ∧
        (v.holds? b' i = some (.file text.toUTF8) ↔ ∀ later, last = some later → later = text)) ∧
      ((∀ x ∈ after, x.IsApart (v.node? b') b.sink.outputDir i t) →
        (∀ x ∈ after, x.source ≠ source) → v.holds? b' i = some (.file text.toUTF8))) := by
  obtain ⟨i, hnode, hfile⟩ := hd.holds_lastText h hsplit
  refine ⟨i, hnode, fun hjournal => ⟨fun hfails => ?_, fun hapart hne => ?_⟩⟩
  · have hlast := hfile hjournal hfails
    refine ⟨hlast, ?_⟩
    rw [hlast]
    cases lastText? (v.node? b') i after with
    | none => simp
    | some later => simp [String.toByteArray_inj]
  · have hreached := hd.not_reached h hsplit hapart hne
    rw [hfile hjournal fun _ x hx => (hreached x hx).2,
      lastText?_eq_none fun x hx => (hreached x hx).1]
    rfl

end Main

section Linked

def linkedBatch : List Source :=
  ["Unit", "Scout", "Rival"].map fun name =>
    ⟨name, "game.units", name, [⟨"hp", .mk "int" "builtins" "int" .primitive [] false⟩]⟩

def scoutLink (p : Path) : Path :=
  if p = .ofText "/native/NativeScout.py" then .ofText "/native/NativeUnit.py" else p

/-- A disk that is full when the file of one class has been emptied. -/
def rivalBreak (p : Path) (_ : String) (_ : Bench) : Option (Fault × String) :=
  if p = .ofText "/native/NativeRival.py" then
    some (⟨.os .noSpace, "[Errno 28] No space left on device"⟩, "")
  else none

def rivalBench : Bench where
  tree.entries := [(["native"], .directory), (["native", "NativeRival.py"], .file "old".toUTF8)]
  sink := { outputDir := .ofText "/native" }

instance {ι : Type} [DecidableEq ι] (node? : Path → Option ι) (directory : Path) (i : ι)
    (x : Outcome) : Decidable (x.FailsAt node? directory i) :=
  decidable_of_iff (x.status = .failed ∧ x.text?.isSome = true ∧
    (x.target?.any fun t => decide (node? (directory.child t.fileName) = some i)) = true) (by
      unfold Outcome.FailsAt
      simp [Option.any_eq_true])

/-- Whether the first outcome was written, and another text was written in its place, while no
later write to its file failed. -/
def losesFirst (links : Path → Path) : Except Fault Report × Bench → Bool
  | (.ok ⟨.written _ _ _ path text :: after⟩, b') =>
    let node? := (Volume.ofTree links).node? b'
    (node? path).any fun i =>
      ((lastText? node? i after).any fun later => decide (later ≠ text)) &&
        decide (∀ x ∈ after, ¬x.FailsAt node? (.ofText "/native") i)
  | _ => false

theorem exists_of_losesFirst {links : Path → Path} {answer : Except Fault Report × Bench}
    (h : losesFirst links answer = true) :
    ∃ report b' source t dropped path text after i later, answer = (.ok report, b') ∧
      report.outcomes = [] ++ .written source t dropped path text :: after ∧
      (Volume.ofTree links).node? b' path = some i ∧
      lastText? ((Volume.ofTree links).node? b') i after = some later ∧ later ≠ text ∧
      ∀ x ∈ after, ¬x.FailsAt ((Volume.ofTree links).node? b') (.ofText "/native") i := by
  unfold losesFirst at h
  split at h
  · rename_i source t dropped path text after b'
    simp only [Option.any_eq_true, Bool.and_eq_true, decide_eq_true_eq] at h
    obtain ⟨i, hnode, ⟨later, hlast, hne⟩, hfails⟩ := h
    exact ⟨_, _, source, t, dropped, path, text, after, i, later, rfl, rfl, hnode, hlast, hne,
      hfails⟩
  · cases h

theorem losesFirst_linkedBatch :
    losesFirst scoutLink (Work.runTo (.onDisk (.ofTree scoutLink rivalBreak))
      (.defaults (.ofText "/game")) {} linkedBatch rivalBench) = true := by
  decide +kernel

/-- Three classes are generated. The file of the first one holds the text of the second one, whose
file is a link to it; the text of the third one does not fit on the disk. -/
theorem holds_written_linkedBatch :
    ∃ report b' source t dropped path text after i later,
      Work.runTo (.onDisk (.ofTree scoutLink rivalBreak)) (.defaults (.ofText "/game")) {}
        linkedBatch rivalBench = (.ok report, b') ∧
      report.outcomes = .written source t dropped path text :: after ∧
      (Volume.ofTree scoutLink).node? b' path = some i ∧
      (Volume.ofTree scoutLink).holds? b' i = some (.file later.toUTF8) ∧ later ≠ text := by
  obtain ⟨report, b', source, t, dropped, path, text, after, i, later, hrun, hsplit, hnode, hlast,
    hne, hfails⟩ := exists_of_losesFirst losesFirst_linkedBatch
  obtain ⟨j, hnode', hholds⟩ := holds_written_of_run (Disk.shows_ofTree scoutLink rivalBreak) hrun
    hsplit
  obtain rfl : i = j := Option.some.inj (hnode.symm.trans hnode')
  obtain ⟨hfile, -⟩ := (hholds id).1 fun _ => hfails
  rw [hlast] at hfile
  exact ⟨report, b', source, t, dropped, path, text, after, i, later, hrun, hsplit, hnode, hfile,
    hne⟩

end Linked

/-! ## Trees without links -/

section Plain

variable {c : Config} {o : Options} {b b' : Bench} {candidates : List Source} {report : Report}
  {before after : List Outcome} {source : String} {t : Target} {dropped : List Dropped}
  {path : Path} {text : String}

/-- Without links, and when the suffix of file names holds no separator, the file of a written
outcome holds its text unless a later candidate has the same name. -/
theorem read_written_of_run (h : Work.run c o candidates b = (.ok report, b'))
    (hsplit : report.outcomes = before ++ .written source t dropped path text :: after)
    (hslash : '/' ∉ c.naming.fileSuffix.toList) (hne : ∀ x ∈ after, x.source ≠ source) :
    b'.tree.read path = .ok text.toUTF8 := by
  unfold Work.run at h
  rw [← Outlet.onDisk_tree] at h
  obtain ⟨place, hnode, hfile⟩ := Disk.shows_tree.holds_lastText h hsplit
  have hfile := hfile id False.elim
  obtain ⟨b₁, hall, -⟩ := Work.runTo_onDisk_ok h
  obtain ⟨s, hsource, hname, rfl⟩ := Disk.shows_tree.target_of_written hall hsplit
  obtain ⟨hchild, hdots⟩ := child_target (p := b.sink.outputDir) hslash hname
  rw [hchild] at hnode ⊢
  obtain ⟨hread, hplace⟩ := Volume.read_of_file hdots hnode hfile
  have hapart : ∀ x ∈ after,
      x.IsApart ((Volume.ofTree id).node? b') b.sink.outputDir place t := by
    intro x hx t' ht'
    have hmem : x ∈ report.outcomes := by
      rw [hsplit]
      exact List.mem_append_right _ (List.mem_cons_of_mem _ hx)
    obtain ⟨s', -, -, htarget⟩ := exists_of_mem_handleAll hall x hmem
    obtain ⟨hchild', hdots'⟩ := child_target (p := b.sink.outputDir) hslash (htarget t' ht')
    rw [hchild', or_iff_not_imp_right, not_not]
    intro hnode'
    obtain ⟨-, hplace'⟩ := Volume.read_of_file hdots' hnode' hfile
    exact (List.singleton_inj.mp (List.append_cancel_left (hplace.symm.trans hplace'))).symm
  have hreached := Disk.shows_tree.not_reached h hsplit hapart hne
  rw [hread, lastText?_eq_none fun x hx => (hreached x hx).1]
  rfl

/-- Two classes of one name in different modules. -/
def namesakes : List Source :=
  ["game.units", "game.rivals"].map fun module =>
    ⟨"Unit", module, "Unit", [⟨"hp", .mk "int" "builtins" "int" .primitive [] false⟩]⟩

def freshBench : Bench := { tree := {}, sink := { outputDir := .ofText "/native" } }

theorem losesFirst_namesakes :
    losesFirst id (Work.run (.defaults (.ofText "/game")) {} namesakes freshBench) = true := by
  decide +kernel

/-- Not every written outcome of a run keeps its own text. -/
theorem not_all_written_keep_text :
    ¬∀ (c : Config) (b b' : Bench) (candidates : List Source) (report : Report) (source : String)
      (t : Target) (dropped : List Dropped) (path : Path) (text : String),
      Work.run c {} candidates b = (.ok report, b') →
      .written source t dropped path text ∈ report.outcomes →
      b'.tree.read path = .ok text.toUTF8 := by
  intro hall
  obtain ⟨report, b', source, t, dropped, path, text, after, i, later, hrun, hsplit, hnode, hlast,
    hne, -⟩ := exists_of_losesFirst losesFirst_namesakes
  have hmem : .written source t dropped path text ∈ report.outcomes := by
    rw [hsplit]
    exact List.mem_cons_self
  obtain ⟨place, hplace, hown⟩ :=
    Volume.file_of_read id (hall _ _ _ _ _ source t dropped path text hrun hmem)
  obtain rfl : i = place := Option.some.inj (hnode.symm.trans hplace)
  unfold Work.run at hrun
  rw [← Outlet.onDisk_tree] at hrun
  obtain ⟨j, hnode', hfile⟩ := Disk.shows_tree.holds_lastText hrun hsplit
  obtain rfl : i = j := Option.some.inj (hnode.symm.trans hnode')
  have hlater := (hfile id False.elim).symm.trans hown
  rw [hlast] at hlater
  exact hne (by simpa [String.toByteArray_inj] using hlater)

end Plain

end StructForge.Batch

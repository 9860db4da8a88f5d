import StructForge.Proofs.Batch.Handling

/-! # Batches on any file system

A sink asks little of a file system: to make one directory, to say whether a path leads to one, and
to open a file for a text and write it. Which file a path denotes is left to the system, so that two
paths may lead to one file through links or in systems that fold the case of names, and a write that
fails may have changed the file that it was to fill. The steps of a batch are followed from these
operations alone. -/

namespace StructForge.Batch

open Files Schema Struct

/-- A view of a file system: what a path denotes at a bench, what is there, and into which files the
records of the log go. -/
structure Volume (ι : Type) where
  node? : Bench → Path → Option ι
  holds? : Bench → ι → Option Entry
  isJournal : ι → Prop

/-- The operations of a file system that a sink uses. -/
structure Disk where
  makeDirectory : Path → Work (Except OsErrorKind Unit)
  isDirectory : Path → Work Bool
  overwrite : Path → String → Work Unit

namespace Disk

def acceptDirectory (d : Disk) (p : Path) (kind : OsErrorKind) : Work Unit := do
  if kind = .notFound then throw (osFault kind p)
  else do
    match ← d.isDirectory p with
    | true => return
    | false => throw (osFault kind p)

/-- Makes a directory at the path of an anchor and names given in reverse, together with those above
it. -/
def makeUp (d : Disk) (anchor : Anchor) : List String → Work Unit
  | [] => do
    let p : Path := ⟨anchor, []⟩
    match ← d.makeDirectory p with
    | .ok () => return
    | .error kind => d.acceptDirectory p kind
  | name :: above => do
    let p : Path := ⟨anchor, (name :: above).reverse⟩
    match ← d.makeDirectory p with
    | .ok () => return
    | .error .notFound => do
      d.makeUp anchor above
      match ← d.makeDirectory p with
      | .ok () => return
      | .error kind => d.acceptDirectory p kind
    | .error kind => d.acceptDirectory p kind

def ensureDirectory (d : Disk) : Work Path := do
  let dir := (← get).sink.outputDir
  d.makeUp dir.anchor dir.names.reverse
  return dir

def concludeWrite (path : Path) (text : String) : Work Path := do
  modify fun b => { b with sink := { b.sink with pending := b.sink.pending ++ [path] } }
  Work.note [⟨.debug, loggerName "writer", s!"Wrote {path.text} ({text.utf8ByteSize} bytes)"⟩]
  return path

def write (d : Disk) (name text : String) : Work Path := do
  let s := (← get).sink
  let path := s.outputDir.child name
  if s.readOnly.contains name then throw ⟨.os .permission, s!"read-only: {name}"⟩
  else do
    d.overwrite path text
    concludeWrite path text

end Disk

def Outlet.onDisk (d : Disk) : Outlet :=
  ⟨(·.sink.outputDir), d.ensureDirectory, d.write, Work.refresh⟩

namespace Volume

variable {ι α β : Type} {v : Volume ι} {b b' b'' : Bench} {files files' made made' : Path → Prop}

/-- What becomes of a volume: files at some paths, and those of the log, may get another content, and
directories are made at some paths where nothing was. Whatever a path denotes it denotes from then
on. -/
structure Moves (v : Volume ι) (b b' : Bench) (files made : Path → Prop) : Prop where
  node? : ∀ p i, v.node? b p = some i → v.node? b' p = some i
  holds? : ∀ i, v.holds? b' i = v.holds? b i ∨
    ((v.isJournal i ∨ ∃ p, files p ∧ v.node? b' p = some i) ∧ v.holds? b i ≠ some .directory ∧
      ∃ content, v.holds? b' i = some (.file content)) ∨
    ((∃ p, made p ∧ v.node? b' p = some i) ∧ v.holds? b i = none ∧
      v.holds? b' i = some .directory)

theorem Moves.mono (h : v.Moves b b' files made) (hfiles : ∀ p, files p → files' p)
    (hmade : ∀ p, made p → made' p) : v.Moves b b' files' made' := by
  refine ⟨h.node?, fun i => ?_⟩
  rcases h.holds? i with heq | ⟨hw, hrest⟩ | ⟨⟨p, hp, hnode⟩, hrest⟩
  · exact .inl heq
  · exact .inr (.inl ⟨hw.imp_right fun ⟨p, hp, hnode⟩ => ⟨p, hfiles p hp, hnode⟩, hrest⟩)
  · exact .inr (.inr ⟨⟨p, hmade p hp, hnode⟩, hrest⟩)

/-- What a path denotes after the first change it denotes after the second one, so that the paths of
both tell what has become of the volume. -/
theorem Moves.trans (h : v.Moves b b' files made) (h' : v.Moves b' b'' files made) :
    v.Moves b b'' files made := by
  have hlater {q : Path → Prop} {i : ι} : (∃ p, q p ∧ v.node? b' p = some i) →
      ∃ p, q p ∧ v.node? b'' p = some i :=
    fun ⟨p, hp, hnode⟩ => ⟨p, hp, h'.node? p i hnode⟩
  refine ⟨fun p i hnode => h'.node? p i (h.node? p i hnode), fun i => ?_⟩
  rcases h.holds? i with heq | ⟨hw, hdir, content, hfile⟩ | ⟨hm, hnone, hmade⟩
  · rw [← heq]
    exact h'.holds? i
  · rcases h'.holds? i with heq' | ⟨-, -, hfile'⟩ | ⟨-, hnone', -⟩
    · exact .inr (.inl ⟨hw.imp_right hlater, hdir, content, heq'.trans hfile⟩)
    · exact .inr (.inl ⟨hw.imp_right hlater, hdir, hfile'⟩)
    · rw [hfile] at hnone'
      cases hnone'
  · rcases h'.holds? i with heq' | ⟨-, hdir', -⟩ | ⟨-, hnone', -⟩
    · exact .inr (.inr ⟨hlater hm, hnone, heq'.trans hmade⟩)
    · exact absurd hmade hdir'
    · rw [hmade] at hnone'
      cases hnone'

theorem Moves.file_iff (h : v.Moves b b' files made) {i : ι} (hjournal : ¬v.isJournal i)
    (hfiles : ∀ p, files p → v.node? b' p ≠ some i) (content : ByteArray) :
    v.holds? b' i = some (.file content) ↔ v.holds? b i = some (.file content) := by
  rcases h.holds? i with heq | ⟨hw | ⟨p, hp, hnode⟩, -⟩ | ⟨-, hnone, hmade⟩
  · rw [heq]
  · exact absurd hw hjournal
  · exact absurd hnode (hfiles p hp)
  · simp [hnone, hmade]

theorem Moves.holds?_of_some (h : v.Moves b b' files made) {i : ι} {e : Entry}
    (he : v.holds? b i = some e) :
    ∃ e', v.holds? b' i = some e' ∧ e'.isDirectory = e.isDirectory := by
  rcases h.holds? i with heq | ⟨-, hdir, content, hfile⟩ | ⟨-, hnone, -⟩
  · exact ⟨e, heq.trans he, rfl⟩
  · cases e with
    | directory => exact absurd he hdir
    | file old => exact ⟨.file content, hfile, rfl⟩
  · rw [he] at hnone
    cases hnone

theorem Moves.exists_made (h : v.Moves b b' files made) {i : ι}
    (hmade : v.holds? b' i = some .directory) (hnew : v.holds? b i ≠ some .directory) :
    v.holds? b i = none ∧ ∃ p, made p ∧ v.node? b' p = some i := by
  rcases h.holds? i with heq | ⟨-, -, content, hfile⟩ | ⟨hm, hnone, -⟩
  · exact absurd (heq.symm.trans hmade) hnew
  · rw [hmade] at hfile
    cases hfile
  · exact ⟨hnone, hm⟩

/-- Whatever some work answers, it changes a volume at some paths only, and leaves the sink as it
is. -/
def Permits (v : Volume ι) (w : Work α) (files made : Path → Prop) : Prop :=
  ∀ b, v.Moves b (w b).2 files made ∧ (w b).2.sink = b.sink

theorem Permits.mono {w : Work α} (h : v.Permits w files made)
    (hfiles : ∀ p, files p → files' p) (hmade : ∀ p, made p → made' p) :
    v.Permits w files' made' :=
  fun b => ⟨(h b).1.mono hfiles hmade, (h b).2⟩

theorem Permits.bind {w : Work α} {f : α → Work β} (hw : v.Permits w files made)
    (hf : ∀ a, v.Permits (f a) files made) : v.Permits (w >>= f) files made := by
  intro b
  obtain ⟨hmoves, hsink⟩ := hw b
  rw [bind_run]
  rcases hrun : w b with ⟨e | a, u⟩
  · rw [hrun] at hmoves hsink
    exact ⟨hmoves, hsink⟩
  · rw [hrun] at hmoves hsink
    obtain ⟨hmoves', hsink'⟩ := hf a u
    exact ⟨hmoves.trans hmoves', hsink'.trans hsink⟩

end Volume

/-- How a disk shows on a volume. What leaves the tree of the bench alone changes no file but those
of the log. A directory is made at its path, and a text that is written is all that is in the file
which its path denotes then. A write that fails has changed that file at most, and if `spoils` does
not hold no file at all. -/
structure Disk.Shows {ι : Type} (d : Disk) (v : Volume ι) (spoils : Prop) : Prop where
  quiet : ∀ b b', b'.tree = b.tree → v.Moves b b' (fun _ => False) fun _ => False
  makeDirectory : ∀ p, v.Permits (d.makeDirectory p) (fun _ => False) (· = p)
  isDirectory : ∀ p, v.Permits (d.isDirectory p) (fun _ => False) fun _ => False
  overwrite : ∀ p text, v.Permits (d.overwrite p text) (· = p) fun _ => False
  written : ∀ p text b b', d.overwrite p text b = (.ok (), b') → ∃ i, v.node? b' p = some i ∧
    (¬v.isJournal i → v.holds? b' i = some (.file text.toUTF8))
  refused : ∀ p text b b' f, ¬spoils → d.overwrite p text b = (.error f, b') →
    v.Moves b b' (fun _ => False) fun _ => False

section Steps

variable {ι : Type} {d : Disk} {v : Volume ι} {spoils : Prop} {b b' : Bench} {name text : String}

namespace Disk.Shows

theorem pure {α : Type} (hd : d.Shows v spoils) (a : α) (files made : Path → Prop) :
    v.Permits (Pure.pure a : Work α) files made :=
  fun b => ⟨(hd.quiet b b rfl).mono (fun _ => False.elim) fun _ => False.elim, rfl⟩

theorem throw {α : Type} (hd : d.Shows v spoils) (f : Fault) (files made : Path → Prop) :
    v.Permits (MonadExcept.throw f : Work α) files made :=
  fun b => ⟨(hd.quiet b b rfl).mono (fun _ => False.elim) fun _ => False.elim, rfl⟩

theorem acceptDirectory (hd : d.Shows v spoils) (p : Path) (kind : OsErrorKind)
    (files made : Path → Prop) : v.Permits (d.acceptDirectory p kind) files made := by
  have hasked : v.Permits (d.isDirectory p) files made :=
    (hd.isDirectory p).mono (fun _ => False.elim) fun _ => False.elim
  unfold Disk.acceptDirectory
  split
  · exact hd.throw _ _ _
  · refine .bind hasked fun found => ?_
    cases found with
    | true => exact hd.pure _ _ _
    | false => exact hd.throw _ _ _

/-- Directories are made at paths that begin the given one. -/
theorem makeUp (hd : d.Shows v spoils) (anchor : Anchor) (names : List String) :
    v.Permits (d.makeUp anchor names) (fun _ => False)
      fun q => q.Begins ⟨anchor, names.reverse⟩ := by
  have hself (p : Path) : v.Permits (d.makeDirectory p) (fun _ => False) fun q => q.Begins p := by
    refine (hd.makeDirectory p).mono (fun _ => id) ?_
    rintro q rfl
    exact ⟨rfl, List.prefix_refl _⟩
  induction names with
  | nil =>
    refine .bind (hself _) fun answer => ?_
    cases answer with
    | ok => exact hd.pure _ _ _
    | error kind => exact hd.acceptDirectory _ kind _ _
  | cons name above ih =>
    have habove : v.Permits (d.makeUp anchor above) (fun _ => False)
        fun q => q.Begins ⟨anchor, (name :: above).reverse⟩ := by
      refine ih.mono (fun _ => id) ?_
      rintro q ⟨hanchor, hnames⟩
      rw [List.reverse_cons]
      exact ⟨hanchor, hnames.trans (List.prefix_append _ _)⟩
    refine .bind (hself _) fun answer => ?_
    split
    · exact hd.pure _ _ _
    · refine .bind habove fun _ => .bind (hself _) fun answer => ?_
      cases answer with
      | ok => exact hd.pure _ _ _
      | error kind => exact hd.acceptDirectory _ kind _ _
    · exact hd.acceptDirectory _ _ _ _

/-- Making the output directory makes directories at the paths that begin its own. -/
theorem ensureDirectory (hd : d.Shows v spoils) (b : Bench) :
    v.Moves b (d.ensureDirectory b).2 (fun _ => False) (·.Begins b.sink.outputDir) ∧
      (d.ensureDirectory b).2.sink = b.sink := by
  have hmade := hd.makeUp b.sink.outputDir.anchor b.sink.outputDir.names.reverse
  rw [List.reverse_reverse] at hmade
  exact (hmade.bind fun _ => hd.pure b.sink.outputDir _ _) b

/-- A text that is written under a name is in the file that its path denotes, unless that is a
journal, and no other file has changed. -/
theorem write_ok (hd : d.Shows v spoils) {path : Path} (h : d.write name text b = (.ok path, b')) :
    path = b.sink.outputDir.child name ∧ b'.sink.outputDir = b.sink.outputDir ∧
      v.Moves b b' (· = path) (fun _ => False) ∧
      ∃ i, v.node? b' path = some i ∧
        (¬v.isJournal i → v.holds? b' i = some (.file text.toUTF8)) := by
  unfold Disk.write at h
  rw [get_bind_run] at h
  split at h
  · exact absurd h not_throw_run_ok
  obtain ⟨⟨⟩, b₁, hwrite, h⟩ := bind_run_ok.mp h
  obtain ⟨rfl, hb'⟩ : b.sink.outputDir.child name = path ∧ b'.tree = b₁.tree ∧
      b'.sink.outputDir = b₁.sink.outputDir := by
    cases h
    exact ⟨rfl, rfl, rfl⟩
  obtain ⟨hmoves, hsink⟩ := hd.overwrite (b.sink.outputDir.child name) text b
  rw [hwrite] at hmoves hsink
  have hquiet := hd.quiet b₁ b' hb'.1
  obtain ⟨i, hnode, hfile⟩ := hd.written _ _ _ _ hwrite
  refine ⟨rfl, hb'.2.trans (congrArg Sink.outputDir hsink),
    hmoves.trans (hquiet.mono (fun _ => False.elim) fun _ => id), i, hquiet.node? _ _ hnode,
    fun hjournal => ?_⟩
  exact (hquiet.file_iff hjournal (fun _ => False.elim) _).mpr (hfile hjournal)

/-- A write that fails has changed at most the file that its path denotes, and that only if failing
writes can spoil files. -/
theorem write_error (hd : d.Shows v spoils) {f : Fault}
    (h : d.write name text b = (.error f, b')) :
    b'.sink.outputDir = b.sink.outputDir ∧
      v.Moves b b' (fun p => spoils ∧ p = b.sink.outputDir.child name) fun _ => False := by
  have hsame : v.Moves b b (fun p => spoils ∧ p = b.sink.outputDir.child name) fun _ => False :=
    (hd.quiet b b rfl).mono (fun _ => False.elim) fun _ => id
  unfold Disk.write at h
  rw [get_bind_run] at h
  split at h
  · cases h
    exact ⟨rfl, hsame⟩
  rcases bind_run_error.mp h with hwrite | ⟨-, b₁, -, h⟩
  · obtain ⟨hmoves, hsink⟩ := hd.overwrite (b.sink.outputDir.child name) text b
    rw [hwrite] at hmoves hsink
    refine ⟨congrArg Sink.outputDir hsink, ?_⟩
    by_cases hspoils : spoils
    · exact hmoves.mono (fun p hp => ⟨hspoils, hp⟩) fun _ => id
    · exact (hd.refused _ _ _ _ _ hspoils hwrite).mono (fun _ => False.elim) fun _ => id
  · cases h

end Disk.Shows

end Steps

def Outcome.IsWrittenTo {ι : Type} (node? : Path → Option ι) (i : ι) (x : Outcome) : Prop :=
  x.status = .written ∧ ∃ p, x.path? = some p ∧ node? p = some i

/-- Whether the text of an outcome was to be written at a path that denotes a node, and failed. -/
def Outcome.FailsAt {ι : Type} (node? : Path → Option ι) (directory : Path) (i : ι)
    (x : Outcome) : Prop :=
  x.status = .failed ∧ x.text?.isSome = true ∧
    ∃ t, x.target? = some t ∧ node? (directory.child t.fileName) = some i

def Outcome.Reaches (directory : Path) (spoils : Prop) (x : Outcome) (p : Path) : Prop :=
  (x.status = .written ∧ x.path? = some p) ∨
    (spoils ∧ x.status = .failed ∧ x.text?.isSome = true ∧
      ∃ t, x.target? = some t ∧ p = directory.child t.fileName)

theorem Outcome.Reaches.written_or_fails {ι : Type} {node? : Path → Option ι} {directory p : Path}
    {spoils : Prop} {x : Outcome} {i : ι} (h : x.Reaches directory spoils p)
    (hnode : node? p = some i) :
    x.IsWrittenTo node? i ∨ spoils ∧ x.FailsAt node? directory i := by
  rcases h with ⟨hstatus, hpath⟩ | ⟨hspoils, hstatus, htext, t, ht, rfl⟩
  · exact .inl ⟨hstatus, p, hpath, hnode⟩
  · exact .inr ⟨hspoils, hstatus, htext, t, ht, hnode⟩

section Runs

variable {ι : Type} {d : Disk} {v : Volume ι} {spoils : Prop} {c : Config} {o : Options}
  {ready ready' : Bool} {s : Source} {candidates : List Source} {b b' : Bench} {name text : String}
  {outcome : Outcome} {outcomes : List Outcome}

/-- A bench at which the output directory is there was reached by making directories. -/
theorem Disk.Shows.readies (hd : d.Shows v spoils)
    (h : (Outlet.onDisk d).Readies ready b b') :
    v.Moves b b' (fun _ => False) (·.Begins b.sink.outputDir) ∧ b'.sink = b.sink := by
  cases h with
  | known => exact ⟨(hd.quiet b b rfl).mono (fun _ => id) fun _ => False.elim, rfl⟩
  | made _ hmade =>
    have hmoves := hd.ensureDirectory b
    change d.ensureDirectory b = _ at hmade
    rw [hmade] at hmoves
    exact hmoves

theorem Disk.Shows.saves (hd : d.Shows v spoils) {answer : Except Fault Path}
    (h : (Outlet.onDisk d).Saves ready name text b ready' answer b') :
    b'.sink.outputDir = b.sink.outputDir ∧
      match answer with
      | .ok path => path = b.sink.outputDir.child name ∧
          v.Moves b b' (· = path) (·.Begins b.sink.outputDir) ∧
          ∃ i, v.node? b' path = some i ∧
            (¬v.isJournal i → v.holds? b' i = some (.file text.toUTF8))
      | .error _ => v.Moves b b' (fun p => spoils ∧ p = b.sink.outputDir.child name)
          (·.Begins b.sink.outputDir) := by
  cases h with
  | noDirectory _ hmade =>
    obtain ⟨hmoves, hsink⟩ := hd.ensureDirectory b
    change d.ensureDirectory b = _ at hmade
    rw [hmade] at hmoves hsink
    exact ⟨congrArg Sink.outputDir hsink, hmoves.mono (fun _ => False.elim) fun _ => id⟩
  | unwritten hready hwrite =>
    obtain ⟨hmoves, hsink⟩ := hd.readies hready
    obtain ⟨hdir, hmoves'⟩ := hd.write_error hwrite
    rw [hsink] at hdir hmoves'
    exact ⟨hdir, (hmoves.mono (fun _ => False.elim) fun _ => id).trans
      (hmoves'.mono (fun _ => id) fun _ => False.elim)⟩
  | written hready hwrite =>
    obtain ⟨hmoves, hsink⟩ := hd.readies hready
    obtain ⟨hpath, hdir, hmoves', hfile⟩ := hd.write_ok hwrite
    rw [hsink] at hpath hdir
    exact ⟨hdir, hpath, (hmoves.mono (fun _ => False.elim) fun _ => id).trans
      (hmoves'.mono (fun _ => id) fun _ => False.elim), hfile⟩

/-- Handling a candidate changes files at the paths that its outcome reaches, and makes directories
only for an outcome with a text. A text that was written is in its file. -/
theorem Disk.Shows.treated (hd : d.Shows v spoils)
    (h : Treated (.onDisk d) c o ready s b ready' outcome b') :
    b'.sink.outputDir = b.sink.outputDir ∧
      v.Moves b b' (outcome.Reaches b.sink.outputDir spoils)
        (fun q => outcome.text?.isSome = true ∧ q.Begins b.sink.outputDir) ∧
      ∀ source t dropped path text, outcome = .written source t dropped path text →
        source = s.name ∧ c.naming.target s = .ok t ∧
          path = b.sink.outputDir.child t.fileName ∧
          ∃ i, v.node? b' path = some i ∧
            (¬v.isJournal i → v.holds? b' i = some (.file text.toUTF8)) := by
  have hquiet {b₁ b₂ : Bench} (htree : b₂.tree = b₁.tree) (files made : Path → Prop) :
      v.Moves b₁ b₂ files made :=
    (hd.quiet b₁ b₂ htree).mono (fun _ => False.elim) fun _ => False.elim
  cases h with
  | unnamed => exact ⟨rfl, hquiet (by rfl) _ _, nofun⟩
  | unrendered => exact ⟨rfl, hquiet (by rfl) _ _, nofun⟩
  | skipped => exact ⟨rfl, hquiet (by rfl) _ _, nofun⟩
  | previewed => exact ⟨rfl, hquiet (by rfl) _ _, nofun⟩
  | @unwritten _ t _ _ b₁ _ _ _ _ hsave =>
    obtain ⟨hdir, hmoves⟩ := hd.saves hsave
    refine ⟨hdir, ((hquiet (by rfl) _ _).trans (hmoves.mono ?_ ?_)).trans (hquiet (by rfl) _ _),
      nofun⟩
    · rintro p ⟨hspoils, rfl⟩
      exact .inr ⟨hspoils, rfl, rfl, t, rfl, rfl⟩
    · exact fun q hq => ⟨rfl, hq⟩
  | @written _ t _ path b₁ records hname _ _ hsave =>
    obtain ⟨hdir, hpath, hmoves, i, hnode, hfile⟩ := hd.saves hsave
    refine ⟨hdir, ((hquiet (by rfl) _ _).trans (hmoves.mono ?_ ?_)).trans (hquiet (by rfl) _ _), ?_⟩
    · rintro p rfl
      exact .inl ⟨rfl, rfl⟩
    · exact fun q hq => ⟨rfl, hq⟩
    · rintro _ _ _ _ _ ⟨⟩
      have hlogged := hd.quiet b₁ (b₁.logged records) rfl
      refine ⟨rfl, hname, hpath, i, hlogged.node? _ _ hnode, fun hjournal => ?_⟩
      exact (hlogged.file_iff hjournal (fun _ => False.elim) _).mpr (hfile hjournal)

/-- Candidates in order change files at the paths that their outcomes reach. -/
theorem Disk.Shows.handleAll (hd : d.Shows v spoils)
    (h : Work.handleAll (.onDisk d) c o ready candidates b = (.ok outcomes, b')) :
    b'.sink.outputDir = b.sink.outputDir ∧
      v.Moves b b' (fun p => ∃ x ∈ outcomes, x.Reaches b.sink.outputDir spoils p)
        fun q => (∃ x ∈ outcomes, x.text?.isSome = true) ∧ q.Begins b.sink.outputDir := by
  induction candidates generalizing ready b outcomes with
  | nil =>
    obtain ⟨rfl, rfl⟩ := pure_run_ok.mp h
    exact ⟨rfl, (hd.quiet b b rfl).mono (fun _ => False.elim) fun _ => False.elim⟩
  | cons s rest ih =>
    obtain ⟨ready', outcome, outcomes', b₁, hhandle, hrest, rfl⟩ := Work.handleAll_cons_run_ok.mp h
    obtain ⟨hdir, hmoves, -⟩ := hd.treated (Work.treated_of_handle hhandle)
    obtain ⟨hdir', hmoves'⟩ := ih hrest
    rw [hdir] at hdir' hmoves'
    refine ⟨hdir', (hmoves.mono ?_ ?_).trans (hmoves'.mono ?_ ?_)⟩
    · exact fun p hp => ⟨outcome, List.mem_cons_self, hp⟩
    · exact fun q hq => ⟨⟨outcome, List.mem_cons_self, hq.1⟩, hq.2⟩
    · exact fun p ⟨x, hx, hp⟩ => ⟨x, List.mem_cons_of_mem _ hx, hp⟩
    · exact fun q ⟨⟨x, hx, htext⟩, hq⟩ => ⟨⟨x, List.mem_cons_of_mem _ hx, htext⟩, hq⟩

theorem Work.runTo_onDisk_ok {report : Report}
    (h : Work.runTo (.onDisk d) c o candidates b = (.ok report, b')) :
    ∃ b₁, Work.handleAll (.onDisk d) c o false candidates b = (.ok report.outcomes, b₁) ∧
      b'.tree = b₁.tree := by
  obtain ⟨outcomes, b₁, hall, h⟩ := bind_run_ok.mp h
  refine ⟨b₁, ?_⟩
  cases hempty : (Report.mk outcomes).written.isEmpty with
  | true =>
    simp only [hempty] at h
    obtain ⟨rfl, records, rfl⟩ := Work.say_return_run_ok h
    exact ⟨hall, rfl⟩
  | false =>
    simp only [hempty] at h
    obtain ⟨paths, b₂, hrefresh, h⟩ := bind_run_ok.mp h
    obtain ⟨rfl, records, rfl⟩ := Work.say_return_run_ok h
    cases hrefresh
    exact ⟨hall, rfl⟩

end Runs

end StructForge.Batch

import StructForge.Journal
import StructForge.Proofs.Batch.Volume
import StructForge.Proofs.Files.FileNames

/-! # Trees with links, writes that break off, and journals

A tree of files is a volume, also when some of its paths are links to other ones, when writes may
break off after the file was emptied, and when a journal is kept in one of its files. Without links,
breaks and journals it is what the sink of the program works on. -/

namespace StructForge.Batch

open Files

/-- The entries of the tree of a bench as a volume, with links from paths to other ones. -/
def Volume.ofTree (links : Path → Path) : Volume Location where
  node? b p :=
    if (links p).holdsNull then none
    else match b.tree.reach (links p) with
      | .ok (.taken place _) => some place
      | _ => none
  holds? b place := b.tree.find? place
  isJournal _ := False

/-- The tree of a bench as a disk, with links from paths to other ones. Where a write breaks off it
leaves a text of its own in the file and ends with a fault. -/
def Disk.ofTree (links : Path → Path) (breaks : Path → String → Bench → Option (Fault × String)) :
    Disk where
  makeDirectory p := Work.act (Action.makeDirectory (links p))
  isDirectory p := Work.act (Action.ask (·.isDirectory (links p)))
  overwrite p text := do
    match breaks p text (← get) with
    | none => Work.act (Action.writeText (links p) text)
    | some (f, left) => do
      Work.act (Action.writeText (links p) left)
      throw f

section Laws

variable {links : Path → Path} {breaks : Path → String → Bench → Option (Fault × String)}
  {b b' : Bench} {p : Path} {place : Location}

theorem Volume.node?_eq_some {e : Entry} (hnull : (links p).holdsNull = false)
    (h : b.tree.reach (links p) = .ok (.taken place e)) :
    (Volume.ofTree links).node? b p = some place := by
  change (if (links p).holdsNull then none else _) = _
  rw [hnull, if_neg Bool.false_ne_true, h]

theorem Volume.reach_of_node? (h : (Volume.ofTree links).node? b p = some place) :
    (links p).holdsNull = false ∧ ∃ e, b.tree.reach (links p) = .ok (.taken place e) := by
  change (if (links p).holdsNull then none else _) = _ at h
  cases hnull : (links p).holdsNull with
  | true =>
    rw [hnull] at h
    cases h
  | false =>
    rw [hnull, if_neg Bool.false_ne_true] at h
    rcases hreach : b.tree.reach (links p) with kind | ⟨found, e⟩ | found
    · rw [hreach] at h
      cases h
    · rw [hreach] at h
      cases h
      exact ⟨rfl, e, rfl⟩
    · rw [hreach] at h
      cases h

theorem Volume.file_of_read (links : Path → Path) {content : ByteArray}
    (h : b.tree.read (links p) = .ok content) :
    ∃ place, (Volume.ofTree links).node? b p = some place ∧
      b.tree.find? place = some (.file content) := by
  obtain ⟨hnull, hreach⟩ := Tree.reach_of_read h
  exact ⟨_, Volume.node?_eq_some hnull hreach, Tree.find?_of_read h⟩

end Laws

end StructForge.Batch

namespace StructForge.Files.Tree

variable {t u : Tree} {p : Path} {place : Location} {e : Entry} {written made : Location → Prop}

theorem find?_of_walk_append {directory : Location} {names : List String} {name : String}
    (h : t.walk directory (names ++ [name]) = .ok (.taken place e)) (hdots : name ≠ dots) :
    t.find? place = some e := by
  induction names generalizing directory with
  | nil =>
    rcases look_spec h with ⟨hname, -⟩ | ⟨-, -, ⟨e', he', hspot⟩ | ⟨-, hspot⟩⟩
    · exact absurd hname hdots
    · cases hspot
      exact he'
    · cases hspot
  | cons first rest ih =>
    obtain ⟨next, rest', hrest⟩ : ∃ next rest', rest ++ [name] = next :: rest' :=
      List.exists_cons_of_ne_nil (by simp)
    rw [List.cons_append, hrest] at h
    obtain ⟨inner, -, hwalk⟩ := walk_cons_cons h
    rw [← hrest] at hwalk
    exact ih hwalk

theorem Changes.extends (h : t.Changes u written made) : t.Extends u := by
  refine ⟨h.here, fun place hd => ?_⟩
  rcases h.find? place with heq | ⟨-, hdir, -⟩ | ⟨-, hnone, -⟩
  · exact heq.trans hd
  · exact absurd hd hdir
  · rw [hd] at hnone
    cases hnone

theorem Changes.exists_reach (h : t.Changes u written made)
    (hreach : t.reach p = .ok (.taken place e)) : ∃ e', u.reach p = .ok (.taken place e') := by
  obtain ⟨hsize, hwalk⟩ := reach_eq_ok.mp hreach
  cases e with
  | directory =>
    refine ⟨.directory, reach_eq_ok.mpr ⟨hsize, ?_⟩⟩
    rw [h.here]
    exact walk_directory_of_extends hwalk h.extends
  | file content =>
    have hfile := (find?_of_walk_file hwalk).2
    have hplace : t.Writable p place := ⟨_, hreach, rfl⟩
    rcases h.find? place with heq | ⟨-, -, content', hfile'⟩ | ⟨-, hnone, -⟩
    · exact ⟨_, hplace.reach_of_extends h.extends (heq.trans hfile)⟩
    · exact ⟨_, hplace.reach_of_extends h.extends hfile'⟩
    · rw [hfile] at hnone
      cases hnone

end StructForge.Files.Tree

namespace StructForge.Batch

open Files

theorem Volume.read_of_file {b : Bench} {p : Path} {name : String} {place : Location}
    {content : ByteArray} (hdots : name ≠ dots)
    (hnode : (Volume.ofTree id).node? b ⟨p.anchor, p.names ++ [name]⟩ = some place)
    (hfile : b.tree.find? place = some (.file content)) :
    b.tree.read ⟨p.anchor, p.names ++ [name]⟩ = .ok content ∧
      place = p.locate b.tree.here ++ [name] := by
  obtain ⟨hnull, e, hreach⟩ := Volume.reach_of_node? hnode
  have hfound := Tree.find?_of_walk_append (Tree.reach_eq_ok.mp hreach).2 hdots
  obtain rfl : e = .file content := Option.some.inj (hfound.symm.trans hfile)
  have hplace : b.tree.Writable ⟨p.anchor, p.names ++ [name]⟩ place := ⟨_, hreach, rfl⟩
  exact ⟨Tree.read_of_reach hnull hreach, hplace.eq_locate.trans (locate_append hdots)⟩

section Moves

variable {links : Path → Path} {breaks : Path → String → Bench → Option (Fault × String)}
  {b b' : Bench} {p : Path} {written made : Location → Prop} {files directories : Path → Prop}

theorem Volume.moves_of_changes (written made : Location → Prop)
    (h : b.tree.Changes b'.tree written made)
    (hfiles : ∀ place, written place →
      ∃ p, files p ∧ (Volume.ofTree links).node? b' p = some place)
    (hmade : ∀ place, made place →
      ∃ p, directories p ∧ (Volume.ofTree links).node? b' p = some place) :
    (Volume.ofTree links).Moves b b' files directories where
  node? p place hnode := by
    obtain ⟨hnull, e, hreach⟩ := Volume.reach_of_node? hnode
    obtain ⟨e', hreach'⟩ := h.exists_reach hreach
    exact Volume.node?_eq_some hnull hreach'
  holds? place := by
    rcases h.find? place with heq | ⟨hw, hrest⟩ | ⟨hm, hrest⟩
    · exact .inl heq
    · exact .inr (.inl ⟨.inr (hfiles place hw), hrest⟩)
    · exact .inr (.inr ⟨hmade place hm, hrest⟩)

theorem Volume.moves_of_tree_eq (h : b'.tree = b.tree) :
    (Volume.ofTree links).Moves b b' files directories :=
  Volume.moves_of_changes (fun _ => False) (fun _ => False) (h ▸ .refl _ _ _)
    (fun _ => False.elim) fun _ => False.elim

theorem Volume.permits_makeDirectory (links : Path → Path) (p : Path) :
    (Volume.ofTree links).Permits (Work.act (Action.makeDirectory (links p))) (fun _ => False)
      (· = p) := by
  intro b
  rw [Work.act_run, Action.makeDirectory_run]
  refine ⟨?_, rfl⟩
  split
  · exact Volume.moves_of_tree_eq rfl
  · rename_i hnull
    rw [Bool.not_eq_true] at hnull
    split
    · rename_i place hreach
      obtain ⟨hne, hnone⟩ := Tree.find?_of_walk_free (Tree.reach_eq_ok.mp hreach).2
      have hplace : b.tree.Writable (links p) place := ⟨_, hreach, rfl⟩
      have hfound : (b.tree.put place .directory).find? place = some .directory := by
        rw [Tree.find?_put hne, if_pos rfl]
      have hreach' := hplace.reach_of_extends (Tree.keeps_put hne hnone).extends hfound
      refine Volume.moves_of_changes (fun _ => False) (· = place)
        (Tree.changes_put_directory hne hnone rfl) (fun _ => False.elim) ?_
      rintro _ rfl
      exact ⟨p, rfl, Volume.node?_eq_some hnull hreach'⟩
    · exact Volume.moves_of_tree_eq rfl
    · exact Volume.moves_of_tree_eq rfl

/-- A text that is written is in the file that its path denotes, and nothing else has changed. -/
theorem Volume.moves_of_writeText {text : String} {t : Files.Tree}
    (h : Action.writeText (links p) text b.tree = (.ok (), t)) :
    (Volume.ofTree links).Moves b { b with tree := t } (· = p) (fun _ => False) ∧
      ∃ place, (Volume.ofTree links).node? { b with tree := t } p = some place ∧
        t.find? place = some (.file text.toUTF8) := by
  obtain ⟨hnull, place, hplace, rfl⟩ := Action.writeText_run_ok.mp h
  obtain ⟨hne, hdir⟩ := hplace.find?_ne
  have hstores : b.tree.Stores (b.tree.put place (.file text.toUTF8)) place text.toUTF8 :=
    Tree.stores_put hne hdir
  have hnode : (Volume.ofTree links).node?
      { b with tree := b.tree.put place (.file text.toUTF8) } p = some place :=
    Volume.node?_eq_some hnull (hplace.reach_of_extends hstores.extends hstores.self)
  refine ⟨Volume.moves_of_changes (· = place) (fun _ => False)
    (Tree.changes_put_file hne hdir rfl) ?_ (fun _ => False.elim), place, hnode, hstores.self⟩
  rintro _ rfl
  exact ⟨p, rfl, hnode⟩

/-- A text that is written, or cannot be written, changes no file but that of its path. -/
theorem Volume.permits_writeText (links : Path → Path) (p : Path) (text : String) :
    (Volume.ofTree links).Permits (Work.act (Action.writeText (links p) text)) (· = p)
      fun _ => False := by
  intro b
  rw [Work.act_run]
  refine ⟨?_, rfl⟩
  rcases hwrite : Action.writeText (links p) text b.tree with ⟨f | ⟨⟩, t⟩
  · exact Volume.moves_of_tree_eq (Action.writeText_run_error hwrite)
  · exact (Volume.moves_of_writeText hwrite).1

end Moves

section Disks

variable (links : Path → Path) (breaks : Path → String → Bench → Option (Fault × String))

theorem Disk.isDirectory_ofTree (p : Path) (b : Bench) :
    (Disk.ofTree links breaks).isDirectory p b = (b.tree.isDirectory (links p), b) := by
  change Work.act (Action.ask (·.isDirectory (links p))) b = _
  rw [Work.act_run, Action.ask_run]

theorem Disk.overwrite_ofTree (p : Path) (text : String) (b : Bench) :
    (Disk.ofTree links breaks).overwrite p text b = match breaks p text b with
      | none => Work.act (Action.writeText (links p) text) b
      | some (f, left) =>
        (Work.act (Action.writeText (links p) left) >>= fun _ => throw f : Work Unit) b := by
  change ((get >>= fun b => match breaks p text b with
    | none => Work.act (Action.writeText (links p) text)
    | some (f, left) => Work.act (Action.writeText (links p) left) >>= fun _ => throw f :
      Work Unit) b) = _
  rw [get_bind_run]
  rcases breaks p text b with _ | ⟨f, left⟩ <;> rfl

/-- A tree with links, on which writes may break off, keeps the rules of file systems. -/
theorem Disk.shows_ofTree :
    (Disk.ofTree links breaks).Shows (Volume.ofTree links) (∃ p text b, breaks p text b ≠ none) where
  quiet _ _ h := Volume.moves_of_tree_eq h
  makeDirectory := Volume.permits_makeDirectory links
  isDirectory p b := by
    rw [Disk.isDirectory_ofTree]
    exact ⟨Volume.moves_of_tree_eq rfl, rfl⟩
  overwrite p text b := by
    rw [Disk.overwrite_ofTree]
    split
    · exact Volume.permits_writeText links p text b
    · refine (Volume.permits_writeText links p _).bind (fun _ b => ?_) b
      exact ⟨Volume.moves_of_tree_eq rfl, rfl⟩
  written p text b b' h := by
    rw [Disk.overwrite_ofTree] at h
    split at h
    · rw [Work.act_run] at h
      rcases hwrite : Action.writeText (links p) text b.tree with ⟨f | ⟨⟩, t⟩
      · rw [hwrite] at h
        cases h
      · rw [hwrite] at h
        cases h
        obtain ⟨-, place, hnode, hfile⟩ := Volume.moves_of_writeText hwrite
        exact ⟨place, hnode, fun _ => hfile⟩
    · obtain ⟨_, _, _, h⟩ := bind_run_ok.mp h
      exact absurd h not_throw_run_ok
  refused p text b b' f hnone h := by
    have hbreak : breaks p text b = none := by
      by_contra hne
      exact hnone ⟨p, text, b, hne⟩
    rw [Disk.overwrite_ofTree, hbreak, Work.act_run] at h
    rcases hwrite : Action.writeText (links p) text b.tree with ⟨f' | ⟨⟩, t⟩
    · rw [hwrite] at h
      cases h
      exact Volume.moves_of_tree_eq (Action.writeText_run_error hwrite)
    · rw [hwrite] at h
      cases h

end Disks

/-- The tree of a bench as a disk without links, on which a write is refused or done. -/
def Disk.tree : Disk := .ofTree id fun _ _ _ => none

/-- Without breaks a write that fails spoils nothing. -/
theorem Disk.shows_tree : Disk.tree.Shows (Volume.ofTree id) False := by
  have h := Disk.shows_ofTree id fun _ _ _ => none
  have hnone : (∃ (p : Path) (text : String) (b : Bench),
      (none : Option (Fault × String)) ≠ none) = False := by simp
  rw [hnone] at h
  exact h

section Journals

variable {ι : Type} [DecidableEq ι] (v : Volume ι) (place : ι) (old : String) (j : Journal)
  (time : String)

/-- A volume on which the records of the log that a journal shows are added to a file. -/
def Volume.journaled : Volume ι where
  node? := v.node?
  holds? b i :=
    if i = place then
      some (.file (old ++ "".intercalate ((b.log.filter j.shows).map (Journal.fileLine time))).toUTF8)
    else v.holds? b i
  isJournal i := i = place ∨ v.isJournal i

variable {v place old j time}

theorem Volume.Moves.journaled {b b' : Bench} {files made : Path → Prop}
    (h : v.Moves b b' files made) : (v.journaled place old j time).Moves b b' files made := by
  refine ⟨h.node?, fun i => ?_⟩
  by_cases heq : i = place
  · subst heq
    refine .inr (.inl ⟨.inl (.inl rfl), ?_, _, if_pos rfl⟩)
    change (if i = i then _ else _) ≠ _
    rw [if_pos rfl]
    simp
  · have hentry (b : Bench) : (v.journaled place old j time).holds? b i = v.holds? b i :=
      if_neg heq
    rw [hentry, hentry]
    rcases h.holds? i with hsame | ⟨hw | hw, hrest⟩ | hrest
    · exact .inl hsame
    · exact .inr (.inl ⟨.inl (.inr hw), hrest⟩)
    · exact .inr (.inl ⟨.inr hw, hrest⟩)
    · exact .inr (.inr hrest)

theorem Disk.Shows.journaled {d : Disk} {spoils : Prop} (hd : d.Shows v spoils) :
    d.Shows (v.journaled place old j time) spoils where
  quiet b b' h := (hd.quiet b b' h).journaled
  makeDirectory p b := ⟨(hd.makeDirectory p b).1.journaled, (hd.makeDirectory p b).2⟩
  isDirectory p b := ⟨(hd.isDirectory p b).1.journaled, (hd.isDirectory p b).2⟩
  overwrite p text b := ⟨(hd.overwrite p text b).1.journaled, (hd.overwrite p text b).2⟩
  written p text b b' h := by
    obtain ⟨i, hnode, hfile⟩ := hd.written p text b b' h
    refine ⟨i, hnode, fun hjournal => ?_⟩
    obtain ⟨hne, hjournal⟩ := not_or.mp hjournal
    exact (if_neg hne).trans (hfile hjournal)
  refused p text b b' f hspoils h := (hd.refused p text b b' f hspoils h).journaled

end Journals

section Program

variable {α β : Type}

theorem Work.act_bind (a : Action α) (f : α → Action β) :
    Work.act (a >>= f) = Work.act a >>= fun x => Work.act (f x) := by
  funext b
  rw [Work.act_run, bind_run, bind_run, Work.act_run]
  rcases a b.tree with ⟨e | x, t⟩
  · rfl
  · change _ = Work.act (f x) { b with tree := t }
    rw [Work.act_run]

theorem Work.act_acceptDirectory (p : Path) (kind : OsErrorKind) :
    Work.act (Action.acceptDirectory p kind) = Disk.tree.acceptDirectory p kind := by
  funext b
  rw [Work.act_run, Action.acceptDirectory_run]
  unfold Disk.acceptDirectory
  split
  · rfl
  · rw [bind_run, Disk.tree, Disk.isDirectory_ofTree, id]
    rcases b.tree.isDirectory p with f | _ | _ <;> rfl

theorem Work.act_makeUp (anchor : Anchor) (names : List String) :
    Work.act (Action.makeUp anchor names) = Disk.tree.makeUp anchor names := by
  induction names with
  | nil =>
    unfold Action.makeUp Disk.makeUp
    rw [Work.act_bind]
    refine congrArg _ (funext fun answer => ?_)
    cases answer with
    | ok => rfl
    | error kind => exact Work.act_acceptDirectory _ kind
  | cons name above ih =>
    unfold Action.makeUp Disk.makeUp
    rw [Work.act_bind]
    refine congrArg _ (funext fun answer => ?_)
    cases answer with
    | ok => rfl
    | error kind =>
      have haccept := Work.act_acceptDirectory ⟨anchor, (name :: above).reverse⟩ kind
      cases kind with
      | notFound =>
        rw [Work.act_bind, ih]
        refine congrArg _ (funext fun _ => ?_)
        rw [Work.act_bind]
        refine congrArg _ (funext fun answer => ?_)
        cases answer with
        | ok => rfl
        | error kind => exact Work.act_acceptDirectory _ kind
      | _ => exact haccept

theorem Outlet.onDisk_tree : Outlet.onDisk Disk.tree = .files := by
  have hensure : Disk.tree.ensureDirectory = Work.ensureDirectory := by
    funext b
    unfold Disk.ensureDirectory Work.ensureDirectory Action.makeDirectories
    rw [get_bind_run, get_bind_run, ← Work.act_makeUp]
  have hwrite : Disk.tree.write = Work.write := by
    funext name text b
    unfold Disk.write Work.write
    rw [get_bind_run, get_bind_run]
    split <;> rfl
  unfold Outlet.onDisk Outlet.files
  rw [hensure, hwrite]

end Program

end StructForge.Batch

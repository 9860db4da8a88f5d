import StructForge.Project
import StructForge.Proofs.Batch.Effects
import StructForge.Proofs.Batch.Frame
import StructForge.Proofs.Struct.Resolution

/-! # What stays in the output directory

The path of a generated file begins with one name in the output directory, and the suffix of file
names says how it goes on. If the suffix leads back to that depth without leaving the directory on
the way, then all that a batch shows or writes is directly in the output directory. Any suffix is
accepted, also one that leads elsewhere. What a link in the directory leads to is left aside, since
trees hold none. -/

namespace StructForge

open Files Schema Batch

/-! ## Names below a directory -/

def Files.Location.IsDirectlyIn (directory place : Location) : Prop :=
  ∃ name, place = directory ++ [name]

/-- How deep names lead below a directory from a depth in it, unless they leave it. -/
def depthFrom? : Nat → List String → Option Nat
  | depth, [] => some depth
  | depth, name :: rest =>
    if name = dots then match depth with
      | 0 => none
      | above + 1 => depthFrom? above rest
    else depthFrom? (depth + 1) rest

section Depth

variable {directory above inner start names : Location} {name last : String} {depth : Nat}

theorem follow_cons_dots (start names : Location) :
    Location.follow start (dots :: names) = Location.follow start.dropLast names := by
  unfold Location.follow
  rw [List.foldl_cons, beq_self_eq_true, if_pos rfl]

theorem follow_cons (hname : name ≠ dots) :
    Location.follow start (name :: names) = Location.follow (start ++ [name]) names := by
  unfold Location.follow
  rw [List.foldl_cons, beq_eq_false_iff_ne.mpr hname, if_neg Bool.false_ne_true]

theorem depthFrom?_cons_dots (depth : Nat) (names : List String) :
    depthFrom? (depth + 1) (dots :: names) = depthFrom? depth names := rfl

theorem depthFrom?_cons (hname : name ≠ dots) (depth : Nat) (names : List String) :
    depthFrom? depth (name :: names) = depthFrom? (depth + 1) names := by
  cases depth <;> exact if_neg hname

theorem exists_follow_of_depthFrom (directory inner : Location)
    (h : depthFrom? inner.length names = some depth) :
    ∃ inner', Location.follow (directory ++ inner) names = directory ++ inner' ∧
      inner'.length = depth := by
  induction names generalizing inner with
  | nil => exact ⟨inner, rfl, Option.some.inj h⟩
  | cons name rest ih =>
    by_cases hname : name = dots
    · subst hname
      rw [follow_cons_dots]
      rcases List.eq_nil_or_concat inner with rfl | ⟨before, last, rfl⟩
      · cases h
      · rw [List.concat_eq_append, ← List.append_assoc, List.dropLast_concat]
        refine ih _ ?_
        rw [List.length_concat, depthFrom?_cons_dots] at h
        exact h
    · rw [follow_cons hname, List.append_assoc]
      refine ih _ ?_
      rw [depthFrom?_cons hname] at h
      rw [List.length_append]
      exact h

end Depth

/-! ## Suffixes of file names -/

namespace Schema.Naming

def stem (n : Naming) (s : Source) : String :=
  n.typePrefix ++ s.name ++ (Text.pieces '/' n.fileSuffix).headD ""

def steps (n : Naming) : List String :=
  (Text.pieces '/' n.fileSuffix).tail.filter fun name => name != "" && name != dot

/-- Whether the path of a file leads back into the output directory, without leaving it on the
way. -/
def StaysInside (n : Naming) : Prop := depthFrom? 1 n.steps = some 1

instance (n : Naming) : Decidable n.StaysInside := inferInstanceAs (Decidable (_ = _))

variable {n : Naming} {s : Source} {t : Target} {p : Path} {here : Location} {last : String}
  {above : Location}

theorem locate_fileName (h : n.target s = .ok t) :
    (p.child t.fileName).locate here =
      Location.follow (p.locate here ++ [n.stem s]) n.steps := by
  obtain ⟨hid, hname⟩ := fileName_of_target h
  obtain ⟨first, rest, hchars, hfirst⟩ := head_of_isIdentifier hid
  have hslash : '/' ∉ (n.typePrefix ++ s.name).toList := not_mem_of_isIdentifier hid (by decide)
  have hstem : (n.stem s).toList.head? = some first := by
    rw [stem, String.toList_append, hchars]
    rfl
  have hne (other : String) (hother : other.toList.head? ≠ some first) : n.stem s ≠ other := by
    rintro rfl
    exact hother hstem
  have hdot : n.stem s ≠ dot := hne _ fun heq => hfirst (Option.some.inj heq).symm
  have hdots : n.stem s ≠ dots := hne _ fun heq => hfirst (Option.some.inj heq).symm
  have hpieces : Text.pieces '/' t.fileName =
      n.stem s :: (Text.pieces '/' n.fileSuffix).tail := by
    unfold stem
    unfold Text.pieces
    rw [hname, String.toList_append, Struct.splitAt_append hslash]
    cases hsplit : Text.splitAt '/' n.fileSuffix.toList with
    | nil => exact absurd hsplit (Text.splitAt_ne_nil _ _)
    | cons piece pieces => simp [String.ofList_append, String.append_assoc]
  have htext : Path.ofText t.fileName = ⟨.here, n.stem s :: n.steps⟩ := by
    have hanchor : anchorOf t.fileName.toList = .here := by
      rw [hname, String.toList_append, hchars]
      have hne : first ≠ '/' := by
        rintro rfl
        exact hslash (hchars ▸ List.mem_cons_self)
      unfold anchorOf
      split <;> simp_all
    unfold Path.ofText steps
    rw [hanchor, hpieces, List.filter_cons_of_pos]
    rw [Bool.and_eq_true, bne_iff_ne, bne_iff_ne]
    exact ⟨hne _ (by simp), hdot⟩
  unfold Path.child Path.join Path.locate
  rw [htext]
  change Location.follow (if p.isAbsolute then [] else here) (p.names ++ _) = _
  unfold Location.follow
  rw [List.foldl_append, List.foldl_cons, beq_eq_false_iff_ne.mpr hdots,
    if_neg Bool.false_ne_true]

theorem isDirectlyIn_of_staysInside (hstays : n.StaysInside) (h : n.target s = .ok t) :
    (p.locate here).IsDirectlyIn ((p.child t.fileName).locate here) := by
  obtain ⟨inner, hfollow, hlength⟩ :=
    exists_follow_of_depthFrom (p.locate here) [n.stem s] hstays
  obtain ⟨name, rfl⟩ := List.length_eq_one_iff.mp hlength
  exact ⟨name, by rw [locate_fileName h, hfollow]⟩

end Schema.Naming

/-! ## Work in the output directory -/

namespace Batch

namespace Work

variable {α β : Type} {dir : Path} {here : Location} {written : Location → Prop} {c : Config}
  {o : Options} {ready raiseOnError : Bool} {s : Source} {t : Target} {dropped : List Dropped}
  {name text : String} {candidates : List Source}

/-- Whatever the work answers, the sink keeps its directory, files are written at some locations
only, and directories are made on the way to that of the sink. -/
def IsConfined (dir : Path) (here : Location) (written : Location → Prop) (w : Work α) : Prop :=
  ∀ b : Bench, b.sink.outputDir = dir → b.tree.here = here →
    (w b).2.sink.outputDir = dir ∧
      b.tree.Changes (w b).2.tree written (dir.LeadsThrough here)

theorem isConfined_pure (a : α) : IsConfined dir here written (pure a : Work α) :=
  fun _ hdir _ => ⟨hdir, .refl _ _ _⟩

theorem isConfined_throw (f : Fault) : IsConfined dir here written (throw f : Work α) :=
  fun _ hdir _ => ⟨hdir, .refl _ _ _⟩

theorem isConfined_note (records : List LogRecord) :
    IsConfined dir here written (note records) :=
  fun _ hdir _ => ⟨hdir, .refl _ _ _⟩

theorem isConfined_keepStandard (loaded : Bool) :
    IsConfined dir here written (keepStandard loaded) :=
  fun _ hdir _ => ⟨hdir, .refl _ _ _⟩

theorem isConfined_refresh : IsConfined dir here written refresh :=
  fun _ hdir _ => ⟨hdir, .refl _ _ _⟩

theorem IsConfined.bind {w : Work α} {f : α → Work β} (hw : IsConfined dir here written w)
    (hf : ∀ a, IsConfined dir here written (f a)) : IsConfined dir here written (w >>= f) := by
  intro b hdir hhere
  obtain ⟨hdir', hchanges⟩ := hw b hdir hhere
  rw [bind_run]
  rcases hrun : w b with ⟨e | a, b'⟩
  · rw [hrun] at hdir' hchanges
    exact ⟨hdir', hchanges⟩
  · rw [hrun] at hdir' hchanges
    obtain ⟨hdir'', hchanges'⟩ := hf a b' hdir' (hchanges.here.trans hhere)
    exact ⟨hdir'', hchanges.trans hchanges'⟩

theorem isConfined_get_bind {f : Bench → Work α} (hf : ∀ b, IsConfined dir here written (f b)) :
    IsConfined dir here written (get >>= f) :=
  fun b hdir hhere => hf b b hdir hhere

theorem IsConfined.guarded {w : Work α} (hw : IsConfined dir here written w) :
    IsConfined dir here written (guarded w) := by
  intro b hdir hhere
  have hend := hw b hdir hhere
  rw [guarded_run]
  rcases hrun : w b with ⟨f | a, b'⟩
  · rw [hrun] at hend
    cases hos : f.kind.isOs with
    | false =>
      simp only [hos]
      exact hend
    | true =>
      simp only [hos]
      exact hend
  · rw [hrun] at hend
    exact hend

theorem isConfined_ensureDirectory : IsConfined dir here written ensureDirectory := by
  intro b hdir hhere
  have hchanges := Action.makeDirectories_isMaking b.sink.outputDir b.tree
  rw [hdir, hhere] at hchanges
  rw [ensureDirectory_run, hdir]
  rcases hmade : Action.makeDirectories dir b.tree with ⟨f | ⟨⟩, tree⟩
  · rw [hmade] at hchanges
    exact ⟨hdir, hchanges.mono (fun _ => False.elim) fun _ h => h⟩
  · rw [hmade] at hchanges
    exact ⟨hdir, hchanges.mono (fun _ => False.elim) fun _ h => h⟩

theorem isConfined_write (hname : written ((dir.child name).locate here)) :
    IsConfined dir here written (write name text) := by
  intro b hdir hhere
  rw [write_run]
  split
  · exact ⟨hdir, .refl _ _ _⟩
  · rcases hwrite : Action.writeText (b.sink.outputDir.child name) text b.tree with
      ⟨f | ⟨⟩, tree⟩
    · rw [Action.writeText_run_error hwrite]
      exact ⟨hdir, .refl _ _ _⟩
    · obtain ⟨-, place, hplace, rfl⟩ := Action.writeText_run_ok.mp hwrite
      obtain ⟨hne, hfree⟩ := hplace.find?_ne
      refine ⟨hdir, Tree.changes_put_file hne hfree ?_⟩
      rw [hplace.eq_locate, hdir, hhere]
      exact hname

theorem isConfined_save (hname : written ((dir.child t.fileName).locate here)) :
    IsConfined dir here written (save .files ready t text) := by
  have hwrite : IsConfined dir here written (do
      return (true, ← Work.guarded (Outlet.files.write t.fileName text)) :
        Work (Bool × Except Fault Path)) :=
    (isConfined_write hname).guarded.bind fun _ => isConfined_pure _
  unfold save
  cases ready with
  | true => exact hwrite
  | false =>
    refine isConfined_ensureDirectory.guarded.bind fun made => ?_
    cases made with
    | error f => exact isConfined_pure _
    | ok dir => exact hwrite

theorem isConfined_finish (hname : written ((dir.child t.fileName).locate here)) :
    IsConfined dir here written (finish .files o ready s t dropped text) := by
  unfold finish
  split
  · exact isConfined_get_bind fun _ => isConfined_pure _
  · refine (isConfined_save hname).bind ?_
    rintro ⟨known, answer⟩
    cases answer with
    | error f => exact (isConfined_note _).bind fun _ => isConfined_pure _
    | ok path => exact (isConfined_note _).bind fun _ => isConfined_pure _

theorem isConfined_handle
    (hname : ∀ t, c.naming.target s = .ok t → written ((dir.child t.fileName).locate here)) :
    IsConfined dir here written (handle .files c o ready s) := by
  unfold handle
  cases htarget : c.naming.target s with
  | error f => exact (isConfined_note _).bind fun _ => isConfined_pure _
  | ok t =>
    refine (isConfined_note _).bind fun _ => (isConfined_note _).bind fun _ =>
      isConfined_get_bind fun b => (isConfined_keepStandard _).bind fun _ => ?_
    rcases draft (b.templates c) t s.extract with f | (error | _ | text)
    · exact isConfined_throw f
    · exact (isConfined_note _).bind fun _ => isConfined_pure _
    · exact (isConfined_note _).bind fun _ => isConfined_pure _
    · exact (isConfined_note _).bind fun _ => isConfined_finish (hname t htarget)

theorem isConfined_handleAll (hname : ∀ s ∈ candidates, ∀ t, c.naming.target s = .ok t →
      written ((dir.child t.fileName).locate here)) :
    IsConfined dir here written (handleAll .files c o ready candidates) := by
  induction candidates generalizing ready with
  | nil => exact isConfined_pure _
  | cons s rest ih =>
    obtain ⟨hfirst, hrest⟩ := List.forall_mem_cons.mp hname
    exact (isConfined_handle hfirst).bind fun _ => (ih hrest).bind fun _ => isConfined_pure _

theorem isConfined_generate (hname : ∀ s ∈ candidates, ∀ t, c.naming.target s = .ok t →
      written ((dir.child t.fileName).locate here)) :
    IsConfined dir here written (generate c o raiseOnError candidates) := by
  refine .bind (.bind (isConfined_handleAll hname) fun outcomes => ?_) fun _ => isConfined_pure _
  dsimp only
  split
  · exact isConfined_refresh.bind fun _ => (isConfined_note _).bind fun _ => isConfined_pure _
  · exact (isConfined_note _).bind fun _ => isConfined_pure _

end Work

/-! ## Paths of outcomes -/

section Paths

variable {c : Config} {o : Options} {templates : Struct.Templates} {ready ready' : Bool} {s : Source}
  {candidates : List Source} {tree tree' : Tree} {sink sink' : Sink} {outcome x : Outcome}
  {outcomes : List Outcome} {path : Path}

theorem Handled.of_path (h : Handled c o templates ready s tree sink ready' outcome tree' sink')
    (hpath : outcome.path? = some path) :
    ∃ t, c.naming.target s = .ok t ∧ path = sink.outputDir.child t.fileName := by
  cases h with
  | unnamed => cases hpath
  | unrendered => cases hpath
  | skipped => cases hpath
  | previewed hname => exact ⟨_, hname, (Option.some.inj hpath).symm⟩
  | noDirectory => cases hpath
  | refused => cases hpath
  | unwritten => cases hpath
  | written hname => exact ⟨_, hname, (Option.some.inj hpath).symm⟩

theorem HandledAll.of_path (h : HandledAll c o ready candidates tree sink outcomes tree' sink')
    (hx : x ∈ outcomes) (hpath : x.path? = some path) :
    ∃ s ∈ candidates, ∃ t, c.naming.target s = .ok t ∧
      path = sink.outputDir.child t.fileName := by
  induction h with
  | nil => cases hx
  | cons head _ ih =>
    rcases List.mem_cons.mp hx with rfl | hx
    · obtain ⟨t, hname, rfl⟩ := head.of_path hpath
      exact ⟨_, List.mem_cons_self, t, hname, rfl⟩
    · obtain ⟨s, hs, t, hname, rfl⟩ := ih hx
      exact ⟨s, List.mem_cons_of_mem _ hs, t, hname, by rw [head.outputDir]⟩

end Paths

section Main

variable {c : Config} {o : Options} {raiseOnError : Bool} {candidates : List Source} {b : Bench}

/-- With a suffix that stays inside, the path of each outcome that was written or shown is directly
in the output directory. Wherever the batch stops, each file of the tree is there too, or was there
before with the same content. -/
theorem generate_confined (hstays : c.naming.StaysInside)
    (hdir : b.sink.outputDir = c.outputDir) :
    (∀ conclusion b', Work.generate c o raiseOnError candidates b = (.ok conclusion, b') →
      ∀ x ∈ conclusion.report.outcomes, ∀ path, x.path? = some path →
        (c.outputDir.locate b.tree.here).IsDirectlyIn (path.locate b.tree.here)) ∧
    ∀ place content,
      (Work.generate c o raiseOnError candidates b).2.tree.find? place = some (.file content) →
      b.tree.find? place = some (.file content) ∨
        (c.outputDir.locate b.tree.here).IsDirectlyIn place := by
  constructor
  · intro conclusion b' h x hx path hpath
    obtain ⟨report, hrun, rfl⟩ := generateTo_run_ok.mp h
    obtain ⟨sink, hall, -⟩ := Work.run_ok hrun
    rw [report.report_conclude] at hx
    obtain ⟨s, -, t, hname, rfl⟩ := hall.of_path hx hpath
    rw [hdir]
    exact Naming.isDirectlyIn_of_staysInside hstays hname
  · intro place content hfile
    have hconfined : Work.IsConfined c.outputDir b.tree.here
        (c.outputDir.locate b.tree.here).IsDirectlyIn
        (Work.generate c o raiseOnError candidates) :=
      Work.isConfined_generate fun s _ t hname => Naming.isDirectlyIn_of_staysInside hstays hname
    obtain ⟨-, hchanges⟩ := hconfined b hdir rfl
    rcases hchanges.find? place with heq | ⟨hinside, -⟩ | ⟨-, -, hmade⟩
    · exact .inl (heq.symm.trans hfile)
    · exact .inr hinside
    · rw [hmade] at hfile
      cases hfile

/-- A configuration whose suffix goes through a directory beside the files. -/
def roundaboutConfig : Config :=
  { Config.defaults (.ofText "/game") with
    outputDir := .ofText "/native", naming.fileSuffix := "/../mirror.py" }

/-- A detour ends in the output directory. -/
theorem generate_confined_detour :
    roundaboutConfig.naming.StaysInside ∧
    ∃ conclusion b',
      Work.generate roundaboutConfig ⟨true⟩ true namesakes freshBench = (.ok conclusion, b') ∧
      conclusion.report.outcomes.map (·.status) = [.previewed, .previewed] ∧
      ∀ x ∈ conclusion.report.outcomes, ∀ path, x.path? = some path →
        Location.IsDirectlyIn ["native"] (path.locate []) := by
  have hstays : roundaboutConfig.naming.StaysInside := by decide
  have hends : ∃ conclusion,
      (Work.generate roundaboutConfig ⟨true⟩ true namesakes freshBench).1 = .ok conclusion ∧
        conclusion.report.outcomes.map (·.status) = [.previewed, .previewed] :=
    exists_of_any (by decide +kernel)
  obtain ⟨conclusion, hok, hstatuses⟩ := hends
  have hrun := eq_mk_of_fst_eq hok
  exact ⟨hstays, conclusion, _, hrun, hstatuses,
    (generate_confined hstays rfl).1 conclusion _ hrun⟩

/-- A project whose suffix leads out of the output directory, where a file of the project is. -/
def strayTree : Tree where
  entries := [(["yard"], .directory),
    (["yard", configFileName],
      .file "output_dir: out\nnaming: {file_suffix: /../../setup.py}\n".toUTF8),
    (["yard", "setup.py"], .file ByteArray.empty), (["yard", "out"], .directory),
    (["yard", "out", "NativeUnit"], .directory)]

def holdsOctets (t : Tree) (place : Location) : Bool :=
  match t.find? place with
  | some (.file content) => content.size != 0
  | _ => false

/-- Not every accepted configuration keeps a batch from overwriting files outside its output
directory. -/
theorem not_all_confined :
    ¬∀ (tree : Tree) (p : Path) (c : Config) (candidates : List Source),
      Config.load tree p = .ok c →
      ∀ place content,
        (Work.generate c {} true candidates
          ((Workshop.ofConfig c).bench tree [])).2.tree.find? place = some (.file content) →
        tree.find? place = some (.file content) ∨
          (c.outputDir.locate tree.here).IsDirectlyIn place := by
  intro hall
  have hload : ∃ c, Config.load strayTree (.ofText "/yard") = .ok c ∧
      c.outputDir.locate [] = ["yard", "out"] ∧
      holdsOctets (Work.generate c {} true namesakes
        ((Workshop.ofConfig c).bench strayTree [])).2.tree ["yard", "setup.py"] = true :=
    exists_of_any (by decide +kernel)
  obtain ⟨c, hc, hplace, hoctets⟩ := hload
  unfold holdsOctets at hoctets
  split at hoctets
  · rename_i content hfile
    rcases hall _ _ c namesakes hc _ content hfile with hold | ⟨name, hname⟩
    · cases hold
      cases hoctets
    · change _ = c.outputDir.locate [] ++ [name] at hname
      rw [hplace] at hname
      simp at hname
  · cases hoctets

end Main

end Batch

end StructForge

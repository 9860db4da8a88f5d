import StructForge.Proofs.Files.Writing

/-! # What making directories does

Making the directory of a path leaves every entry where it is. It adds directories only, each at the
location of a path that begins the given one, also when it fails. Once a directory is there, making
it again changes nothing. -/

namespace StructForge.Files

def Path.Begins (q p : Path) : Prop := q.anchor = p.anchor ∧ q.names <+: p.names

def Path.LeadsThrough (p : Path) (here place : Location) : Prop :=
  ∃ q : Path, q.Begins p ∧ q.locate here = place

namespace Tree

variable {t u v : Tree} {written written' made made' : Location → Prop} {place : Location}
  {p : Path}

/-- What becomes of a tree: files are written at some locations, and directories made at some free
ones. All else stays as it is. -/
structure Changes (t u : Tree) (written made : Location → Prop) : Prop where
  here : u.here = t.here
  homes : u.homes = t.homes
  find? : ∀ place, u.find? place = t.find? place ∨
    (written place ∧ t.find? place ≠ some .directory ∧
      ∃ content, u.find? place = some (.file content)) ∨
    (made place ∧ t.find? place = none ∧ u.find? place = some .directory)

theorem Changes.refl (t : Tree) (written made : Location → Prop) : t.Changes t written made :=
  ⟨rfl, rfl, fun _ => .inl rfl⟩

theorem Changes.mono (h : t.Changes u written made)
    (hwritten : ∀ place, written place → written' place)
    (hmade : ∀ place, made place → made' place) : t.Changes u written' made' := by
  refine ⟨h.here, h.homes, fun place => ?_⟩
  rcases h.find? place with heq | ⟨hw, hrest⟩ | ⟨hm, hrest⟩
  · exact .inl heq
  · exact .inr (.inl ⟨hwritten place hw, hrest⟩)
  · exact .inr (.inr ⟨hmade place hm, hrest⟩)

/-- A file that was written is no directory, and a directory that was made is not written: later
changes at a location do not undo what the earlier ones promise. -/
theorem Changes.trans (h : t.Changes u written made) (h' : u.Changes v written made) :
    t.Changes v written made := by
  refine ⟨h'.here.trans h.here, h'.homes.trans h.homes, fun place => ?_⟩
  rcases h.find? place with heq | ⟨hw, hdir, content, hfile⟩ | ⟨hm, hnone, hmade⟩
  · rw [← heq]
    exact h'.find? place
  · rcases h'.find? place with heq' | ⟨-, -, hfile'⟩ | ⟨-, hnone', -⟩
    · exact .inr (.inl ⟨hw, hdir, content, heq'.trans hfile⟩)
    · exact .inr (.inl ⟨hw, hdir, hfile'⟩)
    · rw [hfile] at hnone'
      cases hnone'
  · rcases h'.find? place with heq' | ⟨-, hdir', -⟩ | ⟨-, hnone', -⟩
    · exact .inr (.inr ⟨hm, hnone, heq'.trans hmade⟩)
    · exact absurd hmade hdir'
    · rw [hmade] at hnone'
      cases hnone'

theorem Changes.keeps (h : t.Changes u (fun _ => False) made) : t.Keeps u := by
  refine ⟨h.here, h.homes, fun place e hfound => ?_⟩
  rcases h.find? place with heq | ⟨hw, -⟩ | ⟨-, hnone, -⟩
  · exact heq.trans hfound
  · exact hw.elim
  · rw [hfound] at hnone
    cases hnone

theorem changes_put_directory (hplace : place ≠ []) (hnone : t.find? place = none)
    (hmade : made place) : t.Changes (t.put place .directory) written made := by
  refine ⟨put_here .., put_homes .., fun other => ?_⟩
  rw [find?_put hplace]
  by_cases heq : other = place
  · subst heq
    exact .inr (.inr ⟨hmade, hnone, if_pos rfl⟩)
  · exact .inl (if_neg heq)

theorem changes_put_file {content : ByteArray} (hplace : place ≠ [])
    (hdir : t.find? place ≠ some .directory) (hwritten : written place) :
    t.Changes (t.put place (.file content)) written made := by
  refine ⟨put_here .., put_homes .., fun other => ?_⟩
  rw [find?_put hplace]
  by_cases heq : other = place
  · subst heq
    exact .inr (.inl ⟨hwritten, hdir, content, if_pos rfl⟩)
  · exact .inl (if_neg heq)

theorem walk_directory_of_extends {directory : Location} {names : List String}
    (h : t.walk directory names = .ok (.taken place .directory)) (hu : t.Extends u) :
    u.walk directory names = .ok (.taken place .directory) := by
  induction names generalizing directory with
  | nil => exact h
  | cons name rest ih =>
    have hlook {inner : Location} (h : t.look directory name = .ok (.taken inner .directory)) :
        u.look directory name = .ok (.taken inner .directory) := by
      rcases look_spec h with ⟨rfl, hspot⟩ | ⟨hdots, hsize, ⟨e, he, hspot⟩ | ⟨-, hspot⟩⟩
      · cases hspot
        exact look_dots u directory
      · cases hspot
        exact look_of_find? hdots hsize (hu.directory _ he)
      · cases hspot
    cases rest with
    | nil => exact hlook h
    | cons next rest =>
      obtain ⟨inner, hinner, hwalk⟩ := walk_cons_cons h
      rw [walk, hlook hinner]
      · exact ih hwalk
      · simp

theorem isDirectory_eq_true : t.isDirectory p = .ok true ↔
    p.holdsNull = false ∧ ∃ place, t.reach p = .ok (.taken place .directory) := by
  unfold isDirectory entry?
  cases hnull : p.holdsNull with
  | true => simp [bind, Except.bind, pure, Except.pure]
  | false =>
    rcases hreach : t.reach p with kind | ⟨place, e⟩ | place
    · cases kind <;> simp [bind, Except.bind, pure, Except.pure]
    · cases e <;> simp [bind, Except.bind, pure, Except.pure, Entry.isDirectory]
    · simp [bind, Except.bind, pure, Except.pure]

theorem isDirectory_of_extends (h : t.isDirectory p = .ok true) (hu : t.Extends u) :
    u.isDirectory p = .ok true := by
  obtain ⟨hnull, place, hreach⟩ := isDirectory_eq_true.mp h
  obtain ⟨hsize, hwalk⟩ := reach_eq_ok.mp hreach
  refine isDirectory_eq_true.mpr ⟨hnull, place, reach_eq_ok.mpr ⟨hsize, ?_⟩⟩
  rw [hu.here]
  exact walk_directory_of_extends hwalk hu

end Tree

namespace Action

variable {α β : Type} {t u : Tree} {p : Path} {made made' : Location → Location → Prop}

/-- Whatever an action answers, the tree changes by directories only. Where they may be made depends
on the directory in which paths are read. -/
def IsMaking (made : Location → Location → Prop) (a : Action α) : Prop :=
  ∀ t : Tree, t.Changes (a t).2 (fun _ => False) (made t.here)

theorem pure_isMaking (a : α) : IsMaking made (pure a : Action α) := fun t => .refl t _ _

theorem IsMaking.bind {a : Action α} {f : α → Action β} (ha : IsMaking made a)
    (hf : ∀ x, IsMaking made (f x)) : IsMaking made (a >>= f) := by
  intro t
  have hat := ha t
  rw [bind_run]
  rcases hrun : a t with ⟨e | x, u⟩
  · rw [hrun] at hat
    exact hat
  · rw [hrun] at hat
    have hfu := hf x u
    rw [hat.here] at hfu
    exact hat.trans hfu

theorem IsMaking.mono {a : Action α} (ha : IsMaking made a)
    (hmade : ∀ here place, made here place → made' here place) : IsMaking made' a :=
  fun t => (ha t).mono (fun _ h => h) (hmade t.here)

theorem ask_run (f : Tree → Except Fault α) (t : Tree) : ask f t = (f t, t) := by
  unfold ask
  rw [get_bind_run]
  cases f t <;> rfl

theorem makeDirectory_run (p : Path) (t : Tree) :
    makeDirectory p t =
      if p.holdsNull then (.error nullFault, t)
      else match t.reach p with
        | .ok (.free place) => (.ok (.ok ()), t.put place .directory)
        | .ok (.taken ..) => (.ok (.error .exists), t)
        | .error kind => (.ok (.error kind), t) := by
  unfold makeDirectory
  split
  · rfl
  · beta_reduce
    rw [get_bind_run]
    rcases t.reach p with kind | ⟨place, e⟩ | place <;> rfl

theorem makeDirectory_isMaking (p : Path) :
    IsMaking (fun here place => p.locate here = place) (makeDirectory p) := by
  intro t
  rw [makeDirectory_run]
  split
  · exact .refl t _ _
  · rcases hreach : t.reach p with kind | ⟨place, e⟩ | place
    · exact .refl t _ _
    · exact .refl t _ _
    · obtain ⟨hne, hnone⟩ := Tree.find?_of_walk_free (Tree.reach_eq_ok.mp hreach).2
      have hplace : t.Writable p place := ⟨_, hreach, rfl⟩
      exact Tree.changes_put_directory hne hnone hplace.eq_locate.symm

theorem acceptDirectory_run (p : Path) (kind : OsErrorKind) (t : Tree) :
    acceptDirectory p kind t =
      if kind = .notFound then (.error (osFault kind p), t)
      else match t.isDirectory p with
        | .ok true => (.ok (), t)
        | .ok false => (.error (osFault kind p), t)
        | .error f => (.error f, t) := by
  unfold acceptDirectory
  by_cases hkind : kind = .notFound
  · rw [if_pos hkind, if_pos (by simpa using hkind)]
    rfl
  · rw [if_neg hkind, if_neg (by simpa using hkind)]
    beta_reduce
    rw [bind_run, ask_run]
    rcases t.isDirectory p with f | (_ | _) <;> rfl

theorem acceptDirectory_isMaking (p : Path) (kind : OsErrorKind) :
    IsMaking made (acceptDirectory p kind) := by
  intro t
  have htree : (acceptDirectory p kind t).2 = t := by
    rw [acceptDirectory_run]
    split
    · rfl
    · split <;> rfl
  rw [htree]
  exact .refl t _ _

/-- Directories are made at paths that begin the given one. -/
theorem makeUp_isMaking (anchor : Anchor) (names : List String) :
    IsMaking (Path.LeadsThrough ⟨anchor, names.reverse⟩) (makeUp anchor names) := by
  have hself (p : Path) : IsMaking p.LeadsThrough (makeDirectory p) :=
    (makeDirectory_isMaking p).mono fun _ _ h => ⟨p, ⟨rfl, List.prefix_refl _⟩, h⟩
  induction names with
  | nil =>
    refine .bind (hself _) fun answer => ?_
    cases answer with
    | ok => exact pure_isMaking _
    | error kind => exact acceptDirectory_isMaking _ kind
  | cons name above ih =>
    have habove : IsMaking (Path.LeadsThrough ⟨anchor, (name :: above).reverse⟩)
        (makeUp anchor above) := by
      refine ih.mono ?_
      rintro here place ⟨q, ⟨hanchor, hnames⟩, hplace⟩
      refine ⟨q, ⟨hanchor, hnames.trans ?_⟩, hplace⟩
      rw [List.reverse_cons]
      exact List.prefix_append _ _
    refine .bind (hself _) fun answer => ?_
    split
    · exact pure_isMaking _
    · refine .bind habove fun _ => .bind (hself _) fun answer => ?_
      cases answer with
      | ok => exact pure_isMaking _
      | error kind => exact acceptDirectory_isMaking _ kind
    · exact acceptDirectory_isMaking _ _

/-- Making the directory of a path adds directories only, at locations of paths that begin it. -/
theorem makeDirectories_isMaking (p : Path) : IsMaking p.LeadsThrough (makeDirectories p) := by
  have h := makeUp_isMaking p.anchor p.names.reverse
  rw [List.reverse_reverse] at h
  exact h

theorem makeDirectories_keeps (p : Path) (t : Tree) : t.Keeps (makeDirectories p t).2 :=
  (makeDirectories_isMaking p t).keeps

/-! ## Directories that are there -/

theorem acceptDirectory_run_ok {kind : OsErrorKind} :
    acceptDirectory p kind t = (.ok (), u) ↔
      kind ≠ .notFound ∧ t.isDirectory p = .ok true ∧ t = u := by
  rw [acceptDirectory_run]
  by_cases hkind : kind = .notFound
  · rw [if_pos hkind]
    exact iff_of_false nofun fun h => h.1 hkind
  · rw [if_neg hkind]
    rcases t.isDirectory p with f | (_ | _)
    · exact iff_of_false nofun nofun
    · exact iff_of_false nofun nofun
    · constructor
      · intro h
        cases h
        exact ⟨hkind, rfl, rfl⟩
      · rintro ⟨-, -, rfl⟩
        rfl

theorem isDirectory_of_makeDirectory (h : makeDirectory p t = (.ok (.ok ()), u)) :
    u.isDirectory p = .ok true := by
  rw [makeDirectory_run] at h
  cases hnull : p.holdsNull with
  | true =>
    rw [hnull] at h
    cases h
  | false =>
    rw [hnull, if_neg Bool.false_ne_true] at h
    rcases hreach : t.reach p with kind | ⟨place, e⟩ | place
    · rw [hreach] at h
      cases h
    · rw [hreach] at h
      cases h
    · rw [hreach] at h
      cases h
      obtain ⟨hne, hnone⟩ := Tree.find?_of_walk_free (Tree.reach_eq_ok.mp hreach).2
      have hfound : (t.put place .directory).find? place = some .directory := by
        rw [Tree.find?_put hne, if_pos rfl]
      have hplace : t.Writable p place := ⟨_, hreach, rfl⟩
      exact Tree.isDirectory_eq_true.mpr
        ⟨hnull, place, hplace.reach_of_extends (Tree.keeps_put hne hnone).extends hfound⟩

theorem isDirectory_of_makeUp {anchor : Anchor} {names : List String}
    (h : makeUp anchor names t = (.ok (), u)) :
    u.isDirectory ⟨anchor, names.reverse⟩ = .ok true := by
  cases names with
  | nil =>
    obtain ⟨answer, t₁, hmade, h⟩ := bind_run_ok.mp h
    rcases answer with kind | ⟨⟩
    · obtain ⟨-, hdir, rfl⟩ := acceptDirectory_run_ok.mp h
      exact hdir
    · obtain ⟨-, rfl⟩ := pure_run_ok.mp h
      exact isDirectory_of_makeDirectory hmade
  | cons name above =>
    obtain ⟨answer, t₁, hmade, h⟩ := bind_run_ok.mp h
    split at h
    · obtain ⟨-, rfl⟩ := pure_run_ok.mp h
      exact isDirectory_of_makeDirectory hmade
    · obtain ⟨-, t₂, -, h⟩ := bind_run_ok.mp h
      obtain ⟨answer, t₃, hmade, h⟩ := bind_run_ok.mp h
      rcases answer with kind | ⟨⟩
      · obtain ⟨-, hdir, rfl⟩ := acceptDirectory_run_ok.mp h
        exact hdir
      · obtain ⟨-, rfl⟩ := pure_run_ok.mp h
        exact isDirectory_of_makeDirectory hmade
    · obtain ⟨-, hdir, rfl⟩ := acceptDirectory_run_ok.mp h
      exact hdir

theorem isDirectory_of_makeDirectories (h : makeDirectories p t = (.ok (), u)) :
    u.isDirectory p = .ok true := by
  have hdir := isDirectory_of_makeUp h
  rw [List.reverse_reverse] at hdir
  exact hdir

theorem makeDirectories_of_isDirectory (h : t.isDirectory p = .ok true) :
    makeDirectories p t = (.ok (), t) := by
  obtain ⟨anchor, names⟩ := p
  obtain ⟨hnull, place, hreach⟩ := Tree.isDirectory_eq_true.mp h
  have hmade : makeDirectory ⟨anchor, names⟩ t = (.ok (.error .exists), t) := by
    rw [makeDirectory_run, hnull, if_neg Bool.false_ne_true, hreach]
  have haccept : acceptDirectory ⟨anchor, names⟩ .exists t = (.ok (), t) :=
    acceptDirectory_run_ok.mpr ⟨by decide, h, rfl⟩
  unfold makeDirectories
  rcases hnames : names.reverse with _ | ⟨name, above⟩
  · have hnil : names = [] := List.reverse_eq_nil_iff.mp hnames
    subst hnil
    exact bind_run_ok.mpr ⟨_, _, hmade, haccept⟩
  · have hcons : (name :: above).reverse = names := by rw [← hnames, List.reverse_reverse]
    simp only [makeUp, hcons]
    exact bind_run_ok.mpr ⟨_, _, hmade, haccept⟩

end Action

end StructForge.Files

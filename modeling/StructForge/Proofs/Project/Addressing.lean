import StructForge.Project
import StructForge.Proofs.Config.Loading
import StructForge.Proofs.Files.Failing

/-! # Ways of naming a project

A project is named by its directory, or by a file in it. Its configuration is the same, whatever the
file. A directory for the output that is read from the root of the file tree is the same too;
another one is read from the path that names the project, so it differs. -/

namespace StructForge

open Files Batch

structure IsFileName (name : String) : Prop where
  ne_empty : name ≠ ""
  ne_dot : name ≠ dot
  ne_dots : name ≠ dots
  slash : '/' ∉ name.toList
  null : '\x00' ∉ name.toList

theorem isFileName_configFileName : IsFileName configFileName where
  ne_empty := by decide
  ne_dot := by decide
  ne_dots := by decide
  slash := by decide
  null := by decide

/-! ## Paths in a directory -/

namespace Files

variable {p q e : Path} {name : String} {t : Tree} {root : Path}

theorem ofText_of_isFileName (h : IsFileName name) : Path.ofText name = ⟨.here, [name]⟩ := by
  unfold Path.ofText Text.pieces
  rw [anchorOf_of_not_mem h.slash, splitAt_of_not_mem h.slash]
  simp [h.ne_empty, h.ne_dot]

theorem child_of_isFileName (h : IsFileName name) :
    p.child name = ⟨p.anchor, p.names ++ [name]⟩ := by
  unfold Path.child Path.join
  rw [ofText_of_isFileName h]
  rfl

theorem parent_child (h : IsFileName name) : (p.child name).parent = p := by
  rw [child_of_isFileName h]
  simp [Path.parent]

theorem name_child (h : IsFileName name) : (p.child name).name = name := by
  rw [child_of_isFileName h]
  simp [Path.name]

/-- A name in a directory leads from what the directory leads to. -/
theorem resolve_child (h : IsFileName name) (hp : t.resolve p = .ok root) :
    t.resolve (p.child name) = .ok (root.child name) := by
  unfold Tree.resolve at hp ⊢
  cases hnull : p.holdsNull with
  | true =>
    rw [hnull] at hp
    cases hp
  | false =>
    rw [hnull] at hp
    cases hp
    rw [Path.holdsNull_child hnull h.null, if_neg Bool.false_ne_true,
      locate_child h.slash h.ne_empty h.ne_dot h.ne_dots, child_of_isFileName h]
    rfl

theorem follow_of_not_mem {start names : Location} (h : dots ∉ names) :
    Location.follow start names = start ++ names := by
  induction names generalizing start with
  | nil => simp [Location.follow]
  | cons name rest ih =>
    rw [List.mem_cons, not_or] at h
    have hname : (name == dots) = false := beq_eq_false_iff_ne.mpr (Ne.symm h.1)
    change Location.follow (if name == dots then start.dropLast else start ++ [name]) rest = _
    rw [hname, if_neg Bool.false_ne_true, ih h.2, List.append_assoc]
    rfl

theorem dots_not_mem_follow {start names : Location} (h : dots ∉ start) :
    dots ∉ Location.follow start names := by
  induction names generalizing start with
  | nil => exact h
  | cons name rest ih =>
    refine ih ?_
    change dots ∉ if name == dots then start.dropLast else start ++ [name]
    cases hname : name == dots with
    | true => exact fun hmem => h (List.dropLast_subset start hmem)
    | false =>
      rw [if_neg Bool.false_ne_true, List.mem_append, List.mem_singleton, not_or]
      exact ⟨h, fun heq => beq_eq_false_iff_ne.mp hname heq.symm⟩

theorem resolve_of_resolve (hhere : dots ∉ t.here) (hnull : root.holdsNull = false)
    (hp : t.resolve p = .ok root) : t.resolve root = .ok root := by
  unfold Tree.resolve at hp ⊢
  rw [hnull, if_neg Bool.false_ne_true]
  split at hp
  · cases hp
  · cases hp
    have hdots : dots ∉ p.locate t.here := by
      unfold Path.locate
      refine dots_not_mem_follow ?_
      split
      · exact List.not_mem_nil
      · exact hhere
    change Except.ok (Path.ofLocation (Location.follow [] (p.locate t.here))) = _
    rw [follow_of_not_mem hdots, List.nil_append]

/-- A name in a directory is not taken for a home directory, unless it is the whole path. -/
theorem expand_child (h : IsFileName name) {homes : List (String × Path)}
    (htilde : p = ⟨.here, []⟩ → name.toList.head? ≠ some '~') (hp : p.expand homes = .ok e) :
    (p.child name).expand homes = .ok (e.child name) := by
  obtain ⟨anchor, names⟩ := p
  rw [child_of_isFileName h, child_of_isFileName h]
  cases anchor with
  | here =>
    cases names with
    | nil =>
      cases hp
      unfold Path.expand
      dsimp only [List.nil_append]
      split
      · rename_i hname
        rw [hname] at htilde
        exact absurd rfl (htilde rfl)
      · rfl
    | cons first rest =>
      unfold Path.expand at hp ⊢
      dsimp only [List.cons_append] at hp ⊢
      split at hp
      · split at hp
        · cases hp
        · rename_i hnull
          rw [if_neg hnull]
          split at hp
          · cases hp
            rw [List.append_assoc]
          · cases hp
      · cases hp
        rfl
  | root =>
    cases hp
    rfl
  | doubledRoot =>
    cases hp
    rfl

end Files

/-! ## The root of a project -/

structure Addresses (t : Tree) (dir root : Path) (name : String) : Prop where
  here : dots ∉ t.here
  leads : (dir.expand t.homes >>= t.resolve) = .ok root
  directory : t.isDirectory root = .ok true
  fileName : IsFileName name
  free : t.isDirectory (root.child name) = .ok false
  tilde : dir = ⟨.here, []⟩ → name.toList.head? ≠ some '~'

section Root

variable {t : Tree} {dir root : Path} {name : String}

namespace Addresses

theorem anchor (h : Addresses t dir root name) : root.anchor = .root := by
  obtain ⟨e, -, hresolve⟩ := bind_eq_ok.mp h.leads
  unfold Tree.resolve at hresolve
  split at hresolve
  · cases hresolve
  · cases hresolve
    rfl

theorem resolve (h : Addresses t dir root name) : t.resolve root = .ok root := by
  obtain ⟨e, -, hresolve⟩ := bind_eq_ok.mp h.leads
  exact resolve_of_resolve h.here (Tree.isDirectory_eq_true.mp h.directory).1 hresolve

theorem leads_child (h : Addresses t dir root name) :
    ((dir.child name).expand t.homes >>= t.resolve) = .ok (root.child name) := by
  obtain ⟨e, hexpand, hresolve⟩ := bind_eq_ok.mp h.leads
  rw [expand_child h.fileName h.tilde hexpand]
  exact resolve_child h.fileName hresolve

theorem fileFor_root (h : Addresses t dir root name) :
    Config.fileFor t root = .ok (root.child configFileName) := by
  have hexpand : root.expand t.homes = .ok root := by
    unfold Path.expand
    rw [h.anchor]
  unfold Config.fileFor
  rw [hexpand]
  change (t.isDirectory root >>= _) = _
  rw [h.directory]
  exact resolve_child isFileName_configFileName h.resolve

/-- The configuration of a file is looked for beside it, whatever its name. -/
theorem fileFor_child (h : Addresses t dir root name) :
    Config.fileFor t (root.child name) = .ok (root.child configFileName) := by
  have hchild := child_of_isFileName (p := root) h.fileName
  have hexpand : (root.child name).expand t.homes = .ok (root.child name) := by
    unfold Path.expand
    rw [hchild, h.anchor]
  unfold Config.fileFor
  rw [hexpand]
  change (t.isDirectory (root.child name) >>= _) = _
  rw [h.free]
  change (if (root.child name).name != configFileName then
    t.resolve ((root.child name).parent.child configFileName)
    else t.resolve (root.child name)) = _
  rw [name_child h.fileName, parent_child h.fileName]
  split
  · exact resolve_child isFileName_configFileName h.resolve
  · rename_i hname
    rw [resolve_child h.fileName h.resolve]
    rw [Bool.not_eq_true, bne_eq_false_iff_eq] at hname
    rw [hname]

theorem load_child (h : Addresses t dir root name) :
    Config.load t (root.child name) = Config.load t root := by
  unfold Config.load
  rw [h.fileFor_child, h.fileFor_root]

theorem root_of_load (h : Addresses t dir root name) {c : Config}
    (hload : Config.load t root = .ok c) : c.root = root := by
  obtain ⟨file, -, hfile, hroot, -⟩ := Config.exists_of_load hload
  rw [h.fileFor_root] at hfile
  cases hfile
  rw [parent_child isFileName_configFileName, h.resolve] at hroot
  exact (Except.ok.inj hroot).symm

end Addresses

end Root

/-! ## Opening and running a project -/

/-- A configuration with another directory for the output, read from a path. -/
def Config.redirected (c : Config) (base : Path) : Option Path → Config
  | none => c
  | some o => { c with outputDir := base.join o }

namespace Workshop

variable {t : Tree} {dir root path : Path} {name : String} {c : Config} {o : Option Path}

theorem forProject_of_leads (h : (path.expand t.homes >>= t.resolve) = .ok root)
    (o : Option Path) : forProject t path o = Config.load t root >>= fun c =>
      .ok (ofConfig (c.redirected root o),
        ⟨.debug, batchLogger, s!"Loaded configuration for {c.root.text}"⟩) := by
  obtain ⟨e, hexpand, hresolve⟩ := bind_eq_ok.mp h
  unfold forProject openProject
  rw [hexpand]
  change (t.resolve e >>= _) >>= _ = _
  rw [hresolve]
  change (Config.load t root >>= _) >>= _ = _
  rw [bind_assoc]
  congr 1
  funext c
  cases o <;> rfl

/-- A directory for the output that is not read from the root of the tree is another one when it is
read from a place in a directory. -/
theorem redirected_child_ne (h : IsFileName name) {q : Path} (hq : q.isAbsolute = false) :
    c.redirected (root.child name) (some q) ≠ c.redirected root (some q) := by
  intro heq
  have hjoin : (root.child name).join q = root.join q := congrArg Config.outputDir heq
  unfold Path.join at hjoin
  rw [hq, if_neg Bool.false_ne_true, if_neg Bool.false_ne_true, child_of_isFileName h] at hjoin
  have hlength := congrArg (fun p : Path => p.names.length) hjoin
  simp only [List.length_append, List.length_singleton] at hlength
  omega

theorem redirected_of_isAbsolute {base base' : Path}
    (h : ∀ q, o = some q → q.isAbsolute = true) : c.redirected base o = c.redirected base' o := by
  cases o with
  | none => rfl
  | some q =>
    change { c with outputDir := base.join q } = { c with outputDir := base'.join q }
    unfold Path.join
    rw [h q rfl]
    rfl

/-- A project is the same whether it is named by its directory or by a place in it, but for a
directory for its output that is read from the path that names it. -/
theorem forProject_child_eq_iff (h : Addresses t dir root name) (o : Option Path) :
    forProject t (dir.child name) o = forProject t dir o ↔
      (∀ q, o = some q → q.isAbsolute = true) ∨ ∃ f, Config.load t root = .error f := by
  rw [forProject_of_leads h.leads, forProject_of_leads h.leads_child, h.load_child]
  cases hload : Config.load t root with
  | error f => exact iff_of_true rfl (.inr ⟨f, rfl⟩)
  | ok c =>
    constructor
    · intro heq
      refine .inl fun q ho => ?_
      subst ho
      have hconfig := congrArg (fun opened => opened.1.config) (Except.ok.inj heq)
      by_contra hrelative
      exact redirected_child_ne h.fileName (Bool.eq_false_iff.mpr hrelative) hconfig
    · rintro (ho | ⟨f, ⟨⟩⟩)
      have hsame : c.redirected (root.child name) o = c.redirected root o :=
        redirected_of_isAbsolute ho
      change Except.ok (ofConfig (c.redirected (root.child name) o), _) = _
      rw [hsame]
      rfl

theorem runProject_congr {w : Workshop} {p : Program} {q : ProjectRequest} {raiseOnError : Bool}
    (h : forProject t path q.outputDir = forProject t q.path q.outputDir) :
    w.runProject p { q with path } raiseOnError t = w.runProject p q raiseOnError t := by
  unfold runProject
  rw [h]

/-- However a project is named, its configuration is the one of its root, and a directory for its
output is read from the path that names it. So it is opened and run alike just where that path does
not count, or nothing is loaded. No file of a tree is a link: one in the place of the configuration
would be resolved to a root of its own. -/
theorem addressed_alike (h : Addresses t dir root name) :
    (∀ c, Config.load t root = .ok c → c.root = root ∧ ∀ o,
      (forProject t dir o).map (·.1.config) = .ok (c.redirected root o) ∧
      (forProject t (dir.child name) o).map (·.1.config) =
        .ok (c.redirected (root.child name) o)) ∧
    (∀ o, forProject t (dir.child name) o = forProject t dir o ↔
      (∀ q, o = some q → q.isAbsolute = true) ∨ ∃ f, Config.load t root = .error f) ∧
    ∀ (w : Workshop) (p : Program) (q : ProjectRequest) (raiseOnError : Bool), q.path = dir →
      ((∀ o, q.outputDir = some o → o.isAbsolute = true) ∨ ∃ f, Config.load t root = .error f) →
      w.runProject p { q with path := dir.child name } raiseOnError t =
        w.runProject p q raiseOnError t := by
  refine ⟨fun c hload => ⟨h.root_of_load hload, fun o => ?_⟩, forProject_child_eq_iff h, ?_⟩
  · rw [forProject_of_leads h.leads, forProject_of_leads h.leads_child, h.load_child, hload]
    exact ⟨rfl, rfl⟩
  · rintro w p q raiseOnError rfl hsame
    exact runProject_congr ((forProject_child_eq_iff h q.outputDir).mpr hsame)

def yardTree : Tree where
  entries := [(["yard"], .directory), (["yard", configFileName], .file "drop_policy: silent".toUTF8),
    (["yard", "notes.txt"], .file ByteArray.empty)]

theorem addresses_yard :
    Addresses yardTree (.ofText "/yard") (.ofLocation ["yard"]) configFileName where
  here := List.not_mem_nil
  leads := by decide +kernel
  directory := by decide +kernel
  fileName := isFileName_configFileName
  free := by decide +kernel
  tilde := by decide +kernel

/-- The project is run alike by its directory and by its configuration file. -/
theorem addressed_alike_yard :
    Addresses yardTree (.ofText "/yard") (.ofLocation ["yard"]) configFileName ∧
    (∃ c, Config.load yardTree (.ofLocation ["yard"]) = .ok c ∧ c.root = .ofLocation ["yard"]) ∧
    ∀ w : Workshop, w.runProject {} { path := .ofText "/yard/.nativegen.yml" } true yardTree =
      w.runProject {} { path := .ofText "/yard" } true yardTree := by
  have halike := addressed_alike addresses_yard
  refine ⟨addresses_yard, ?_, fun w => ?_⟩
  · have hload : (Config.load yardTree (.ofLocation ["yard"])).toOption.isSome = true := by
      decide +kernel
    cases hc : Config.load yardTree (.ofLocation ["yard"]) with
    | error f =>
      rw [hc] at hload
      cases hload
    | ok c => exact ⟨c, rfl, (halike.1 c hc).1⟩
  · have hpath : Path.ofText "/yard/.nativegen.yml" =
        (Path.ofText "/yard").child configFileName := by decide +kernel
    rw [hpath]
    exact halike.2.2 w {} { path := .ofText "/yard" } true rfl (.inl (by rintro o ⟨⟩))

/-- A directory for the output is not read from the directory of the configuration file that names
the project. -/
theorem not_all_opened_alike : ¬∀ (t : Tree) (dir root : Path) (name : String) (q : Path),
    Addresses t dir root name → q.isAbsolute = false →
    forProject t (dir.child name) (some q) = forProject t dir (some q) := by
  intro h
  have hsame := congrArg
    (fun opened => opened.toOption.map fun (w, _) => w.config.outputDir)
    (h _ _ _ _ (.ofText "out") addresses_yard (by decide +kernel))
  exact absurd hsame (by decide +kernel)

end Workshop

end StructForge

import StructForge.Files.Tree
import StructForge.Proofs.Steps

/-! # What actions do to a tree

An action either keeps every entry or stores one file. Both leave directories where they are, so a
path that led to a file goes on to do so, whatever is stored later. -/

namespace StructForge.Files

namespace Tree

variable {t u v : Tree} {place other : Location} {e : Entry} {content : ByteArray}

@[simp] theorem put_here (t : Tree) (place : Location) (e : Entry) :
    (t.put place e).here = t.here := by
  unfold put
  split <;> rfl

@[simp] theorem put_homes (t : Tree) (place : Location) (e : Entry) :
    (t.put place e).homes = t.homes := by
  unfold put
  split <;> rfl

theorem lookup_replace (entries : List (Location × Entry)) (place other : Location) (e : Entry) :
    (entries.map fun old => if old.1 == place then (place, e) else old).lookup other =
      if other = place then (entries.lookup place).map fun _ => e else entries.lookup other := by
  induction entries with
  | nil => simp
  | cons old rest ih =>
    rw [List.map_cons, List.lookup_cons, List.lookup_cons, List.lookup_cons]
    by_cases hold : old.1 = place
    · by_cases hother : other = place
      · simp [hold, hother]
      · have h : (other == place) = false := beq_eq_false_iff_ne.mpr hother
        rw [if_neg hother] at ih ⊢
        simp only [hold, beq_self_eq_true, if_true, h]
        exact ih
    · have h : (old.1 == place) = false := beq_eq_false_iff_ne.mpr hold
      have h' : (place == old.1) = false := beq_eq_false_iff_ne.mpr (Ne.symm hold)
      rw [h, h', if_neg Bool.false_ne_true, ih]
      by_cases hother : other = place
      · simp [hother, h']
      · simp [hother]

theorem lookup_isSome (entries : List (Location × Entry)) (place : Location) :
    (entries.lookup place).isSome = entries.any (·.1 == place) := by
  rw [Bool.eq_iff_iff, List.lookup_isSome_iff, List.any_eq_true]
  simp only [Bool.beq_comm]

theorem find?_put (hplace : place ≠ []) :
    (t.put place e).find? other = if other = place then some e else t.find? other := by
  by_cases hother : other = []
  · subst hother
    rw [if_neg (Ne.symm hplace)]
    rfl
  · have hfind (u : Tree) : u.find? other = u.entries.lookup other := by
      unfold find?
      rw [if_neg (by simpa using hother)]
    rw [hfind, hfind]
    unfold put
    have hsome := lookup_isSome t.entries place
    split
    · rename_i h
      rw [h, Option.isSome_iff_exists] at hsome
      obtain ⟨old, hold⟩ := hsome
      rw [lookup_replace, hold]
      rfl
    · rename_i h
      rw [Bool.not_eq_true] at h
      rw [h, Option.isSome_eq_false_iff, Option.isNone_iff_eq_none] at hsome
      rw [List.lookup_append]
      by_cases heq : other = place
      · simp [heq, hsome]
      · have h' : (other == place) = false := beq_eq_false_iff_ne.mpr heq
        simp [heq, List.lookup_cons, h']

structure Keeps (t u : Tree) : Prop where
  here : u.here = t.here
  homes : u.homes = t.homes
  find? : ∀ place e, t.find? place = some e → u.find? place = some e

/-- A tree is another one with a file stored at a location where no directory was. Other entries are
kept, and directories may be new. -/
structure Stores (t u : Tree) (place : Location) (content : ByteArray) : Prop where
  here : u.here = t.here
  homes : u.homes = t.homes
  self : u.find? place = some (.file content)
  noDirectory : t.find? place ≠ some .directory
  others : ∀ other e, other ≠ place → t.find? other = some e → u.find? other = some e

structure Extends (t u : Tree) : Prop where
  here : u.here = t.here
  directory : ∀ place, t.find? place = some .directory → u.find? place = some .directory

theorem Keeps.refl (t : Tree) : t.Keeps t := ⟨rfl, rfl, fun _ _ h => h⟩

theorem Keeps.trans (h : t.Keeps u) (h' : u.Keeps v) : t.Keeps v :=
  ⟨h'.here.trans h.here, h'.homes.trans h.homes,
    fun place e hf => h'.find? place e (h.find? place e hf)⟩

theorem Keeps.extends (h : t.Keeps u) : t.Extends u :=
  ⟨h.here, fun place hd => h.find? place .directory hd⟩

theorem Stores.extends (h : t.Stores u place content) : t.Extends u := by
  refine ⟨h.here, fun other hd => ?_⟩
  by_cases heq : other = place
  · subst heq
    exact absurd hd h.noDirectory
  · exact h.others other _ heq hd

theorem Extends.trans (h : t.Extends u) (h' : u.Extends v) : t.Extends v :=
  ⟨h'.here.trans h.here, fun place hd => h'.directory place (h.directory place hd)⟩

theorem Keeps.stores (h : t.Keeps u) (h' : u.Stores v place content) :
    t.Stores v place content where
  here := h'.here.trans h.here
  homes := h'.homes.trans h.homes
  self := h'.self
  noDirectory hd := h'.noDirectory (h.find? place _ hd)
  others other e hne hf := h'.others other e hne (h.find? other e hf)

theorem keeps_put (hplace : place ≠ []) (h : t.find? place = none) : t.Keeps (t.put place e) := by
  refine ⟨put_here t place e, put_homes t place e, fun other e' hf => ?_⟩
  rw [find?_put hplace]
  by_cases heq : other = place
  · subst heq
    rw [h] at hf
    cases hf
  · rw [if_neg heq, hf]

theorem stores_put (hplace : place ≠ []) (h : t.find? place ≠ some .directory) :
    t.Stores (t.put place (.file content)) place content where
  here := put_here ..
  homes := put_homes ..
  self := by rw [find?_put hplace, if_pos rfl]
  noDirectory := h
  others other e hne hf := by rw [find?_put hplace, if_neg hne, hf]

end Tree

def Spot.place? : Spot → Option Location
  | .taken place (.file _) => some place
  | .taken _ .directory => none
  | .free place => some place

namespace Tree

variable {t u : Tree} {place directory : Location} {content : ByteArray} {spot : Spot}

theorem look_spec {name : String} (h : t.look directory name = .ok spot) :
    (name = dots ∧ spot = .taken directory.dropLast .directory) ∨
    (name ≠ dots ∧ name.utf8ByteSize ≤ nameLimit ∧
      ((∃ e, t.find? (directory ++ [name]) = some e ∧ spot = .taken (directory ++ [name]) e) ∨
       (t.find? (directory ++ [name]) = none ∧ spot = .free (directory ++ [name])))) := by
  unfold look at h
  split at h
  · rename_i hdots
    exact .inl ⟨by simpa using hdots, by simpa using h.symm⟩
  · rename_i hdots
    split at h
    · cases h
    · rename_i hsize
      refine .inr ⟨by simpa using hdots, by omega, ?_⟩
      split at h
      · rename_i e he
        exact .inl ⟨e, he, by simpa using h.symm⟩
      · rename_i he
        exact .inr ⟨he, by simpa using h.symm⟩

theorem walk_cons_cons {name next : String} {rest : List String}
    (h : t.walk directory (name :: next :: rest) = .ok spot) :
    ∃ inner, t.look directory name = .ok (.taken inner .directory) ∧
      t.walk inner (next :: rest) = .ok spot := by
  rw [walk] at h
  · split at h
    · cases h
    · cases h
    · cases h
    · rename_i inner hlook
      exact ⟨inner, hlook, h⟩
  · simp

theorem find?_of_walk_free {names : List String} (h : t.walk directory names = .ok (.free place)) :
    place ≠ [] ∧ t.find? place = none := by
  induction names generalizing directory with
  | nil => cases h
  | cons name rest ih =>
    cases rest with
    | nil =>
      rcases look_spec h with ⟨-, hspot⟩ | ⟨-, -, ⟨e, -, hspot⟩ | ⟨hnone, hspot⟩⟩
      · cases hspot
      · cases hspot
      · cases hspot
        exact ⟨by simp, hnone⟩
    | cons next rest =>
      obtain ⟨inner, -, hwalk⟩ := walk_cons_cons h
      exact ih hwalk

theorem find?_of_walk_file {names : List String}
    (h : t.walk directory names = .ok (.taken place (.file content))) :
    place ≠ [] ∧ t.find? place = some (.file content) := by
  induction names generalizing directory with
  | nil => cases h
  | cons name rest ih =>
    cases rest with
    | nil =>
      rcases look_spec h with ⟨-, hspot⟩ | ⟨-, -, ⟨e, he, hspot⟩ | ⟨-, hspot⟩⟩
      · cases hspot
      · cases hspot
        exact ⟨by simp, he⟩
      · cases hspot
    | cons next rest =>
      obtain ⟨inner, -, hwalk⟩ := walk_cons_cons h
      exact ih hwalk

theorem follow_of_walk {names : List String} (h : t.walk directory names = .ok spot)
    (hplace : spot.place? = some place) : place = Location.follow directory names := by
  induction names generalizing directory with
  | nil =>
    cases h
    cases hplace
  | cons name rest ih =>
    cases rest with
    | nil =>
      rcases look_spec h with ⟨-, rfl⟩ | ⟨hdots, -, ⟨e, -, rfl⟩ | ⟨-, rfl⟩⟩
      · cases hplace
      · cases e with
        | directory => cases hplace
        | file content =>
          cases hplace
          simp [Location.follow, hdots]
      · cases hplace
        simp [Location.follow, hdots]
    | cons next rest =>
      obtain ⟨inner, hlook, hwalk⟩ := walk_cons_cons h
      rcases look_spec hlook with ⟨rfl, hspot⟩ | ⟨hdots, -, ⟨e, -, hspot⟩ | ⟨-, hspot⟩⟩
      · cases hspot
        rw [ih hwalk]
        simp [Location.follow]
      · cases hspot
        rw [ih hwalk]
        simp [Location.follow, hdots]
      · cases hspot

theorem look_dots (t : Tree) (directory : Location) :
    t.look directory dots = .ok (.taken directory.dropLast .directory) := by
  simp [look]

theorem look_of_find? {name : String} {e : Entry} (hdots : name ≠ dots)
    (hsize : name.utf8ByteSize ≤ nameLimit) (h : t.find? (directory ++ [name]) = some e) :
    t.look directory name = .ok (.taken (directory ++ [name]) e) := by
  unfold look
  rw [if_neg (by simpa using hdots), if_neg (by omega), h]

theorem walk_of_extends {names : List String} {e : Entry} (h : t.walk directory names = .ok spot)
    (hplace : spot.place? = some place) (hu : t.Extends u) (hfound : u.find? place = some e) :
    u.walk directory names = .ok (.taken place e) := by
  induction names generalizing directory with
  | nil =>
    cases h
    cases hplace
  | cons name rest ih =>
    cases rest with
    | nil =>
      rcases look_spec h with ⟨-, rfl⟩ | ⟨hdots, hsize, ⟨old, -, rfl⟩ | ⟨-, rfl⟩⟩
      · cases hplace
      · cases old with
        | directory => cases hplace
        | file content =>
          cases hplace
          exact look_of_find? hdots hsize hfound
      · cases hplace
        exact look_of_find? hdots hsize hfound
    | cons next rest =>
      obtain ⟨inner, hlook, hwalk⟩ := walk_cons_cons h
      have hlook' : u.look directory name = .ok (.taken inner .directory) := by
        rcases look_spec hlook with ⟨rfl, hspot⟩ | ⟨hdots, hsize, ⟨_, he, hspot⟩ | ⟨-, hspot⟩⟩
        · cases hspot
          exact look_dots u directory
        · cases hspot
          exact look_of_find? hdots hsize (hu.directory _ he)
        · cases hspot
      rw [walk, hlook']
      · exact ih hwalk
      · simp

theorem reach_eq_ok {p : Path} :
    t.reach p = .ok spot ↔ p.text.utf8ByteSize < pathLimit ∧
      t.walk (if p.isAbsolute then [] else t.here) p.names = .ok spot := by
  unfold reach
  split
  · constructor
    · intro h
      cases h
    · intro h
      omega
  · constructor
    · intro h
      exact ⟨by omega, h⟩
    · exact fun h => h.2

def Writable (t : Tree) (p : Path) (place : Location) : Prop :=
  ∃ spot, t.reach p = .ok spot ∧ spot.place? = some place

variable {p : Path}

theorem Writable.find?_ne (h : t.Writable p place) :
    place ≠ [] ∧ t.find? place ≠ some .directory := by
  obtain ⟨spot, hreach, hplace⟩ := h
  obtain ⟨-, hwalk⟩ := reach_eq_ok.mp hreach
  cases spot with
  | free free =>
    cases hplace
    obtain ⟨hne, hnone⟩ := find?_of_walk_free hwalk
    exact ⟨hne, by simp [hnone]⟩
  | taken taken e =>
    cases e with
    | directory => cases hplace
    | file old =>
      cases hplace
      obtain ⟨hne, hfile⟩ := find?_of_walk_file hwalk
      exact ⟨hne, by simp [hfile]⟩

/-- A file is written where its path leads when nothing is looked up. -/
theorem Writable.eq_locate (h : t.Writable p place) : place = p.locate t.here := by
  obtain ⟨spot, hreach, hplace⟩ := h
  exact follow_of_walk (reach_eq_ok.mp hreach).2 hplace

/-- A path at which a file could be written leads to what is there later. -/
theorem Writable.reach_of_extends {e : Entry} (h : t.Writable p place) (hu : t.Extends u)
    (hfound : u.find? place = some e) : u.reach p = .ok (.taken place e) := by
  obtain ⟨spot, hreach, hplace⟩ := h
  obtain ⟨hsize, hwalk⟩ := reach_eq_ok.mp hreach
  refine reach_eq_ok.mpr ⟨hsize, ?_⟩
  rw [hu.here]
  exact walk_of_extends hwalk hplace hu hfound

theorem read_of_reach (hnull : p.holdsNull = false)
    (h : t.reach p = .ok (.taken place (.file content))) : t.read p = .ok content := by
  unfold read
  rw [hnull, if_neg Bool.false_ne_true, h]

/-- A file is read where its path leads when nothing is looked up. -/
theorem reach_of_read (h : t.read p = .ok content) :
    p.holdsNull = false ∧ t.reach p = .ok (.taken (p.locate t.here) (.file content)) := by
  unfold read at h
  cases hnull : p.holdsNull with
  | true =>
    rw [hnull] at h
    cases h
  | false =>
    rw [hnull, if_neg Bool.false_ne_true] at h
    split at h
    · rename_i found _ hreach
      cases h
      have hplace : t.Writable p found := ⟨_, hreach, rfl⟩
      rw [← hplace.eq_locate]
      exact ⟨rfl, hreach⟩
    · cases h
    · cases h
    · cases h

theorem read_of_extends (h : t.read p = .ok content) (hu : t.Extends u)
    (hfile : u.find? (p.locate t.here) = some (.file content)) : u.read p = .ok content := by
  obtain ⟨hnull, hreach⟩ := reach_of_read h
  have hplace : t.Writable p (p.locate t.here) := ⟨_, hreach, rfl⟩
  exact read_of_reach hnull (hplace.reach_of_extends hu hfile)

theorem find?_of_read (h : t.read p = .ok content) :
    t.find? (p.locate t.here) = some (.file content) :=
  (find?_of_walk_file (reach_eq_ok.mp (reach_of_read h).2).2).2

theorem exists_read_of_readText {s : String} (h : t.readText p = .ok s) :
    ∃ content, t.read p = .ok content := by
  obtain ⟨content, hread, -⟩ := bind_eq_ok.mp h
  exact ⟨content, hread⟩

theorem readText_of_extends {s : String} (h : t.readText p = .ok s) (hu : t.Extends u)
    (hfile : u.find? (p.locate t.here) = t.find? (p.locate t.here)) : u.readText p = .ok s := by
  obtain ⟨content, hread⟩ := exists_read_of_readText h
  have hread' : u.read p = .ok content :=
    read_of_extends hread hu (hfile.trans (find?_of_read hread))
  unfold readText at h ⊢
  rw [hread']
  rw [hread] at h
  exact h

end Tree

namespace Action

variable {t u : Tree} {p : Path} {α β : Type}

theorem change_run (p : Path) (f : ByteArray → ByteArray) (t : Tree) :
    change p f t =
      if p.holdsNull then (.error nullFault, t)
      else match t.reach p with
        | .ok (.taken place (.file content)) => (.ok (), t.put place (.file (f content)))
        | .ok (.free place) => (.ok (), t.put place (.file (f ByteArray.empty)))
        | .ok (.taken _ .directory) => (.error (osFault .isDirectory p), t)
        | .error kind => (.error (osFault kind p), t) := by
  unfold change
  split
  · rfl
  · rename_i hnull
    change (match t.reach p with
      | .ok (.taken place (.file content)) => modify (·.put place (.file (f content)))
      | .ok (.free place) => modify (·.put place (.file (f ByteArray.empty)))
      | .ok (.taken _ .directory) => throw (osFault .isDirectory p)
      | .error kind => throw (osFault kind p) : Action Unit) t = _
    split <;> simp_all <;> rfl

theorem writeText_run_ok {s : String} :
    writeText p s t = (.ok (), u) ↔
      p.holdsNull = false ∧ ∃ place, t.Writable p place ∧ u = t.put place (.file s.toUTF8) := by
  rw [writeText, change_run]
  cases hnull : p.holdsNull with
  | true =>
    rw [if_pos rfl]
    constructor
    · intro h
      cases h
    · intro h
      cases h.1
  | false =>
    rw [if_neg Bool.false_ne_true]
    constructor
    · intro h
      refine ⟨rfl, ?_⟩
      split at h
      · rename_i place old hreach
        cases h
        exact ⟨place, ⟨_, hreach, rfl⟩, rfl⟩
      · rename_i place hreach
        cases h
        exact ⟨place, ⟨_, hreach, rfl⟩, rfl⟩
      · cases h
      · cases h
    · rintro ⟨-, place, ⟨spot, hreach, hplace⟩, rfl⟩
      rw [hreach]
      cases spot with
      | free free =>
        cases hplace
        rfl
      | taken taken e =>
        cases e with
        | directory => cases hplace
        | file old =>
          cases hplace
          rfl

theorem writeText_run_error {s : String} {f : Fault} (h : writeText p s t = (.error f, u)) :
    u = t := by
  rw [writeText, change_run] at h
  split at h
  · cases h
    rfl
  · split at h <;> cases h <;> rfl

end Action

end StructForge.Files

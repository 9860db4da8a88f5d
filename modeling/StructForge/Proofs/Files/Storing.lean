import StructForge.Proofs.Files.Writing

/-! # Entries put in order

Entries are put into a tree one after the other, so the last one at a location is left there. Putting
the same entries once more changes nothing. Meanwhile the tree has all that it had before, but for
what its files hold. -/

namespace StructForge.Files.Tree

attribute [ext] Tree

def putAll (t : Tree) (puts : List (Location × Entry)) : Tree :=
  puts.foldl (fun t p => t.put p.1 p.2) t

variable {t : Tree} {place : Location} {e : Entry} {puts : List (Location × Entry)}
  {old : Location × Entry}

theorem putAll_cons (t : Tree) (p : Location × Entry) (puts : List (Location × Entry)) :
    t.putAll (p :: puts) = (t.put p.1 p.2).putAll puts := rfl

theorem putAll_append (t : Tree) (puts more : List (Location × Entry)) :
    t.putAll (puts ++ more) = (t.putAll puts).putAll more :=
  List.foldl_append

@[simp] theorem putAll_here (t : Tree) (puts : List (Location × Entry)) :
    (t.putAll puts).here = t.here := by
  induction puts generalizing t with
  | nil => rfl
  | cons p puts ih => rw [putAll_cons, ih, put_here]

@[simp] theorem putAll_homes (t : Tree) (puts : List (Location × Entry)) :
    (t.putAll puts).homes = t.homes := by
  induction puts generalizing t with
  | nil => rfl
  | cons p puts ih => rw [putAll_cons, ih, put_homes]

def Lists (t : Tree) (place : Location) : Prop := ∃ old ∈ t.entries, old.1 = place

theorem any_eq_true_iff : (t.entries.any (·.1 == place)) = true ↔ t.Lists place := by
  simp [Lists]

/-- At a location that is listed an entry takes the place of the others. -/
theorem put_of_lists (h : t.Lists place) : t.put place e =
    { t with entries := t.entries.map fun old => if old.1 == place then (place, e) else old } := by
  unfold put
  rw [if_pos (any_eq_true_iff.mpr h)]

/-- At another location an entry goes behind the others. -/
theorem put_of_not_lists (h : ¬t.Lists place) :
    t.put place e = { t with entries := t.entries ++ [(place, e)] } := by
  unfold put
  rw [if_neg (mt any_eq_true_iff.mp h)]

theorem lists_put (t : Tree) (place : Location) (e : Entry) : (t.put place e).Lists place := by
  by_cases h : t.Lists place
  · rw [put_of_lists h]
    obtain ⟨old, hold, rfl⟩ := h
    exact ⟨_, List.mem_map_of_mem hold, by simp⟩
  · rw [put_of_not_lists h]
    exact ⟨_, List.mem_append_right _ (List.mem_singleton_self _), rfl⟩

theorem Lists.put {other : Location} (h : t.Lists other) (place : Location) (e : Entry) :
    (t.put place e).Lists other := by
  by_cases hplace : t.Lists place
  · rw [put_of_lists hplace]
    obtain ⟨old, hold, rfl⟩ := h
    refine ⟨_, List.mem_map_of_mem hold, ?_⟩
    split
    · rename_i heq
      exact (beq_iff_eq.mp heq).symm
    · rfl
  · rw [put_of_not_lists hplace]
    obtain ⟨old, hold, rfl⟩ := h
    exact ⟨old, List.mem_append_left _ hold, rfl⟩

theorem Lists.putAll {other : Location} (h : t.Lists other) (puts : List (Location × Entry)) :
    (t.putAll puts).Lists other := by
  induction puts generalizing t with
  | nil => exact h
  | cons p puts ih => exact ih (h.put _ _)

theorem lists_putAll {p : Location × Entry} (h : p ∈ puts) : (t.putAll puts).Lists p.1 := by
  induction puts generalizing t with
  | nil => cases h
  | cons q puts ih =>
    rcases List.mem_cons.mp h with rfl | h
    · exact (lists_put _ _ _).putAll puts
    · exact ih h

theorem mem_put (h : old ∈ (t.put place e).entries) :
    old = (place, e) ∨ old.1 ≠ place ∧ old ∈ t.entries := by
  by_cases hplace : t.Lists place
  · rw [put_of_lists hplace] at h
    obtain ⟨before, hbefore, rfl⟩ := List.mem_map.mp h
    split
    · exact .inl rfl
    · rename_i hne
      exact .inr ⟨fun heq => hne (beq_iff_eq.mpr heq), hbefore⟩
  · rw [put_of_not_lists hplace] at h
    rcases List.mem_append.mp h with hmem | hmem
    · exact .inr ⟨fun heq => hplace ⟨old, hmem, heq⟩, hmem⟩
    · exact .inl (List.mem_singleton.mp hmem)

theorem lookup_reverse_cons (p : Location × Entry) (puts : List (Location × Entry))
    (place : Location) : (p :: puts).reverse.lookup place =
      (puts.reverse.lookup place).or (if place == p.1 then some p.2 else none) := by
  rw [List.reverse_cons, List.lookup_append]
  obtain ⟨q, e⟩ := p
  rw [List.lookup_cons, List.lookup_nil]
  cases place == q <;> rfl

/-- What is left at a location was put there last, or nothing was put there. -/
theorem mem_putAll (h : old ∈ (t.putAll puts).entries) :
    puts.reverse.lookup old.1 = some old.2 ∨
      puts.reverse.lookup old.1 = none ∧ old ∈ t.entries := by
  induction puts generalizing t with
  | nil => exact .inr ⟨rfl, h⟩
  | cons p puts ih =>
    rw [lookup_reverse_cons]
    rcases ih h with hlast | ⟨hnone, hmem⟩
    · rw [hlast]
      exact .inl rfl
    · rw [hnone, Option.none_or]
      rcases mem_put hmem with rfl | ⟨hne, hmem⟩
      · rw [if_pos (beq_self_eq_true _)]
        exact .inl rfl
      · rw [if_neg fun heq => hne (beq_iff_eq.mp heq)]
        exact .inr ⟨rfl, hmem⟩

/-- Entries at listed locations take the places of others, each the last one of its location. -/
theorem putAll_entries (h : ∀ p ∈ puts, t.Lists p.1) : (t.putAll puts).entries =
    t.entries.map fun old => (old.1, (puts.reverse.lookup old.1).getD old.2) := by
  induction puts generalizing t with
  | nil => simp [putAll]
  | cons p puts ih =>
    obtain ⟨hp, hrest⟩ := List.forall_mem_cons.mp h
    rw [putAll_cons, ih fun q hq => (hrest q hq).put _ _, put_of_lists hp, List.map_map]
    refine List.map_congr_left fun old _ => ?_
    rw [lookup_reverse_cons, Function.comp_apply]
    cases hold : old.1 == p.1 with
    | true =>
      rw [if_pos rfl, if_pos rfl, beq_iff_eq.mp hold]
      cases puts.reverse.lookup p.1 <;> rfl
    | false =>
      rw [if_neg Bool.false_ne_true, if_neg Bool.false_ne_true]
      cases puts.reverse.lookup old.1 <;> rfl

/-- Putting the same entries once more changes nothing. -/
theorem putAll_putAll (t : Tree) (puts : List (Location × Entry)) :
    (t.putAll puts).putAll puts = t.putAll puts := by
  refine Tree.ext ?_ (putAll_here _ _) (putAll_homes _ _)
  rw [putAll_entries fun p hp => lists_putAll hp]
  refine (List.map_congr_left fun old hold => ?_).trans (List.map_id _)
  rcases mem_putAll hold with hlast | ⟨hnone, -⟩
  · rw [hlast]
    rfl
  · rw [hnone]
    rfl

/-! ## Trees but for what their files hold -/

structure Covers (t u : Tree) : Prop where
  here : u.here = t.here
  directory : ∀ place, t.find? place = some .directory → u.find? place = some .directory
  file : ∀ place content, t.find? place = some (.file content) →
    ∃ content', u.find? place = some (.file content')

section Covers

variable {u v : Tree} {content : ByteArray}

theorem Covers.refl (t : Tree) : t.Covers t := ⟨rfl, fun _ h => h, fun _ content h => ⟨content, h⟩⟩

theorem Covers.trans (h : t.Covers u) (h' : u.Covers v) : t.Covers v := by
  refine ⟨h'.here.trans h.here, fun place hd => h'.directory place (h.directory place hd), ?_⟩
  intro place content hf
  obtain ⟨content', hf'⟩ := h.file place content hf
  exact h'.file place content' hf'

theorem Covers.extends (h : t.Covers u) : t.Extends u := ⟨h.here, h.directory⟩

theorem Keeps.covers (h : t.Keeps u) : t.Covers u :=
  ⟨h.here, fun place hd => h.find? place _ hd, fun place content hf => ⟨content, h.find? place _ hf⟩⟩

theorem Stores.covers (h : t.Stores u place content) : t.Covers u := by
  refine ⟨h.here, h.extends.directory, fun other old hf => ?_⟩
  by_cases heq : other = place
  · exact ⟨content, heq ▸ h.self⟩
  · exact ⟨old, h.others other _ heq hf⟩

end Covers

end StructForge.Files.Tree

import Mathlib.Data.List.Induction
import Mathlib.Data.List.Nodup
import StructForge.Live.Registry
import StructForge.Proofs.Steps

/-! # Tables filled by assignment

A table of names is filled by assigning pairs one after the other. A name keeps the place where it
came first and has the value that came last, so a table that is filled further keeps its names in
their order and only gets new ones at its end. -/

namespace StructForge.Live

variable {β γ : Type} {name key : String} {value : β} {table pairs more : List (String × β)}

def assignOnto (table pairs : List (String × β)) : List (String × β) :=
  pairs.foldl (fun kept (k, v) => assign k v kept) table

def latest? (pairs : List (String × β)) (name : String) : Option β := pairs.reverse.lookup name

theorem assignAll_append (pairs more : List (String × β)) :
    assignAll (pairs ++ more) = assignOnto (assignAll pairs) more :=
  List.foldl_append

theorem assignOnto_concat (table pairs : List (String × β)) (p : String × β) :
    assignOnto table (pairs ++ [p]) = assign p.1 p.2 (assignOnto table pairs) := by
  unfold assignOnto
  rw [List.foldl_append]
  rfl

theorem assignAll_concat (pairs : List (String × β)) (p : String × β) :
    assignAll (pairs ++ [p]) = assign p.1 p.2 (assignAll pairs) :=
  assignOnto_concat [] pairs p

theorem latest?_concat (pairs : List (String × β)) (p : String × β) (name : String) :
    latest? (pairs ++ [p]) name = if name = p.1 then some p.2 else latest? pairs name := by
  unfold latest?
  rw [List.reverse_concat, List.lookup_cons]
  by_cases hname : name = p.1
  · rw [if_pos hname, beq_iff_eq.mpr hname]
  · rw [if_neg hname, beq_eq_false_iff_ne.mpr hname]

section Assign

theorem assign_append_of_mem (hkey : key ∈ table.map (·.1)) :
    assign key value (table ++ more) = assign key value table ++ more := by
  induction table with
  | nil => cases hkey
  | cons p table ih =>
    simp only [List.cons_append, assign]
    split
    · rfl
    · rename_i hne
      rw [List.map_cons, List.mem_cons] at hkey
      rw [ih (hkey.resolve_left fun h => hne (beq_iff_eq.mpr h.symm)), List.cons_append]

theorem assign_append_of_not_mem (hkey : key ∉ table.map (·.1)) :
    assign key value (table ++ more) = table ++ assign key value more := by
  induction table with
  | nil => rfl
  | cons p table ih =>
    rw [List.map_cons, List.mem_cons, not_or] at hkey
    have hne : ¬(p.1 == key) = true := fun h => hkey.1 (beq_iff_eq.mp h).symm
    simp only [List.cons_append, assign, if_neg hne, ih hkey.2]

/-- A new name goes last. -/
theorem assign_of_not_mem (hkey : key ∉ table.map (·.1)) :
    assign key value table = table ++ [(key, value)] := by
  rw [← table.append_nil, assign_append_of_not_mem hkey, List.append_nil]
  rfl

/-- A name that is there keeps its place, and the others keep all they have. -/
theorem assign_of_mem (hnodup : (table.map (·.1)).Nodup) (hkey : key ∈ table.map (·.1)) :
    assign key value table = table.map fun p => (p.1, if p.1 = key then value else p.2) := by
  induction table with
  | nil => cases hkey
  | cons p table ih =>
    rw [List.map_cons, List.nodup_cons] at hnodup
    rw [List.map_cons, List.mem_cons] at hkey
    simp only [assign, List.map_cons]
    by_cases hp : p.1 = key
    · have hrest : ∀ q ∈ table, (q.1, if q.1 = key then value else q.2) = q := by
        intro q hq
        rw [if_neg]
        rintro rfl
        exact hnodup.1 (hp ▸ List.mem_map_of_mem hq)
      rw [if_pos (beq_iff_eq.mpr hp), if_pos hp, List.map_congr_left hrest, List.map_id']
    · rw [if_neg (mt beq_iff_eq.mp hp), if_neg hp,
        ih hnodup.2 (hkey.resolve_left fun h => hp h.symm)]

theorem names_assign (key : String) (value : β) (hnodup : (table.map (·.1)).Nodup) :
    (assign key value table).map (·.1) =
      table.map (·.1) ++ if key ∈ table.map (·.1) then [] else [key] := by
  split
  · rename_i hkey
    rw [assign_of_mem hnodup hkey, List.map_map, List.append_nil]
    rfl
  · rename_i hkey
    rw [assign_of_not_mem hkey, List.map_append]
    rfl

theorem nodup_assign (hnodup : (table.map (·.1)).Nodup) :
    ((assign key value table).map (·.1)).Nodup := by
  rw [names_assign _ _ hnodup]
  split
  · rwa [List.append_nil]
  · rename_i hkey
    exact List.Nodup.append hnodup (List.nodup_singleton _) (List.disjoint_singleton.mpr hkey)

theorem mem_assign (hnodup : (table.map (·.1)).Nodup) {x : β} :
    (name, x) ∈ assign key value table ↔
      if name = key then x = value else (name, x) ∈ table := by
  by_cases hkey : key ∈ table.map (·.1)
  · rw [assign_of_mem hnodup hkey, List.mem_map]
    split
    · rename_i hname
      subst hname
      obtain ⟨p, hp, hpname⟩ := List.mem_map.mp hkey
      constructor
      · rintro ⟨q, -, hq⟩
        obtain ⟨hqname, hqx⟩ := Prod.mk.inj hq
        rw [← hqx, if_pos hqname]
      · rintro rfl
        exact ⟨p, hp, by rw [hpname, if_pos rfl]⟩
    · rename_i hname
      constructor
      · rintro ⟨q, hq, hqx⟩
        obtain ⟨rfl, rfl⟩ := Prod.mk.inj hqx
        rwa [if_neg hname]
      · intro hmem
        exact ⟨_, hmem, by rw [if_neg hname]⟩
  · rw [assign_of_not_mem hkey, List.mem_append, List.mem_singleton, Prod.mk.injEq]
    split
    · rename_i hname
      have hnew : (name, x) ∉ table := fun hmem => hkey (hname ▸ List.mem_map_of_mem hmem)
      simp [hname, hname ▸ hnew]
    · rename_i hname
      simp [hname]

theorem lookup_assign : (assign key value table).lookup name =
    if name = key then some value else table.lookup name := by
  have hcons (k : String) (v : β) (rest : List (String × β)) :
      ((k, v) :: rest).lookup name = if name = k then some v else rest.lookup name := by
    rw [List.lookup_cons]
    by_cases hname : name = k
    · simp [hname]
    · rw [beq_eq_false_iff_ne.mpr hname, if_neg hname]
  induction table with
  | nil => exact hcons key value []
  | cons p table ih =>
    obtain ⟨k, v⟩ := p
    rw [assign, hcons]
    split
    · rename_i hk
      rw [hcons, eq_of_beq hk]
      split <;> rfl
    · rename_i hk
      rw [hcons, ih]
      split
      · rename_i hname
        rw [if_neg fun hkey => hk (beq_iff_eq.mpr (hname.symm.trans hkey))]
      · rfl

end Assign

section Fill

theorem nodup_assignAll (pairs : List (String × β)) : ((assignAll pairs).map (·.1)).Nodup := by
  induction pairs using List.reverseRecOn with
  | nil => exact List.nodup_nil
  | append_singleton pairs p ih =>
    rw [assignAll_concat]
    exact nodup_assign ih

theorem mem_names_assignAll {pairs : List (String × β)} :
    name ∈ (assignAll pairs).map (·.1) ↔ name ∈ pairs.map (·.1) := by
  induction pairs using List.reverseRecOn generalizing name with
  | nil => rfl
  | append_singleton pairs p ih =>
    rw [assignAll_concat, names_assign _ _ (nodup_assignAll pairs), List.mem_append, ih,
      List.map_append, List.mem_append, List.map_singleton, List.mem_singleton]
    split
    · rename_i hkey
      rw [or_iff_left List.not_mem_nil]
      exact (or_iff_left_of_imp fun h => h ▸ ih.mp hkey).symm
    · rw [List.mem_singleton]

theorem mem_assignAll {x : β} : (name, x) ∈ assignAll pairs ↔ latest? pairs name = some x := by
  induction pairs using List.reverseRecOn with
  | nil => simp [assignAll, latest?]
  | append_singleton pairs p ih =>
    rw [assignAll_concat, mem_assign (nodup_assignAll pairs), latest?_concat, ih]
    split
    · rw [Option.some.injEq, eq_comm]
    · rfl

theorem lookup_assignAll : (assignAll pairs).lookup name = latest? pairs name := by
  cases hlatest : latest? pairs name with
  | some x =>
    refine lookup_eq_some (mem_assignAll.mpr hlatest) fun y hy => ?_
    rw [mem_assignAll, hlatest, Option.some.injEq] at hy
    exact hy.symm
  | none =>
    cases hlookup : (assignAll pairs).lookup name with
    | none => rfl
    | some y =>
      rw [mem_assignAll.mp (mem_of_lookup hlookup)] at hlatest
      cases hlatest

/-- Filling a table further changes no place: its names take their latest values, and the new ones
follow. -/
theorem assignOnto_eq (hnodup : (table.map (·.1)).Nodup) (pairs : List (String × β)) :
    assignOnto table pairs = (table.map fun p => (p.1, (latest? pairs p.1).getD p.2)) ++
      assignAll (pairs.filter (·.1 ∉ table.map (·.1))) := by
  -- The last pair either changes a value of the table, or goes to the new names.
  induction pairs using List.reverseRecOn with
  | nil => exact ((List.append_nil _).trans (List.map_id' _)).symm
  | append_singleton pairs p ih =>
    have hnames : (table.map fun p => (p.1, (latest? pairs p.1).getD p.2)).map (·.1) =
        table.map (·.1) := by
      rw [List.map_map]
      rfl
    rw [assignOnto_concat, ih, List.filter_append]
    by_cases hp : p.1 ∈ table.map (·.1)
    · rw [assign_append_of_mem (by rwa [hnames]), assign_of_mem (by rwa [hnames]) (by rwa [hnames]),
        List.map_map, List.filter_cons_of_neg (by simpa using hp), List.filter_nil, List.append_nil]
      congr 1
      refine List.map_congr_left fun q _ => ?_
      rw [Function.comp_apply, latest?_concat]
      split <;> rfl
    · rw [assign_append_of_not_mem (by rwa [hnames]),
        List.filter_cons_of_pos (by simpa using hp), List.filter_nil, assignAll_concat]
      congr 1
      refine List.map_congr_left fun q hq => ?_
      rw [latest?_concat, if_neg fun h : q.1 = p.1 => hp (h ▸ List.mem_map_of_mem hq)]

theorem assignAll_of_nodup (hnodup : (pairs.map (·.1)).Nodup) : assignAll pairs = pairs := by
  induction pairs using List.reverseRecOn with
  | nil => rfl
  | append_singleton pairs p ih =>
    rw [List.map_append, List.nodup_append] at hnodup
    obtain ⟨hpairs, -, hdisjoint⟩ := hnodup
    rw [assignAll_concat, ih hpairs, assign_of_not_mem]
    exact fun hp => hdisjoint _ hp _ List.mem_cons_self rfl

theorem latest?_eq_some (hnodup : (pairs.map (·.1)).Nodup) (hmem : (name, value) ∈ pairs) :
    latest? pairs name = some value := by
  refine lookup_eq_some (List.mem_reverse.mpr hmem) fun y hy => ?_
  have hsame := List.inj_on_of_nodup_map hnodup (List.mem_reverse.mp hy) hmem rfl
  exact congrArg Prod.snd hsame

theorem nodup_assignOnto (hnodup : (table.map (·.1)).Nodup) (pairs : List (String × β)) :
    ((assignOnto table pairs).map (·.1)).Nodup := by
  rw [← assignAll_of_nodup hnodup, ← assignAll_append]
  exact nodup_assignAll _

/-- Assigning a table that is the given one filled further gives that table. -/
theorem assignOnto_assignOnto (hnodup : (table.map (·.1)).Nodup) (pairs : List (String × β)) :
    assignOnto table (assignOnto table pairs) = assignOnto table pairs := by
  have hfilled := nodup_assignOnto hnodup pairs
  have hlatest : ∀ p ∈ table, latest? (assignOnto table pairs) p.1 =
      some ((latest? pairs p.1).getD p.2) := by
    intro p hp
    refine latest?_eq_some hfilled ?_
    rw [assignOnto_eq hnodup]
    exact List.mem_append_left _ (List.mem_map_of_mem hp)
  have hnew : (assignOnto table pairs).filter (·.1 ∉ table.map (·.1)) =
      assignAll (pairs.filter (·.1 ∉ table.map (·.1))) := by
    rw [assignOnto_eq hnodup, List.filter_append, List.filter_eq_nil_iff.mpr,
      List.filter_eq_self.mpr, List.nil_append]
    · intro p hp
      have hp := mem_names_assignAll.mp (List.mem_map_of_mem hp)
      obtain ⟨q, hq, hname⟩ := List.mem_map.mp hp
      exact hname ▸ (List.mem_filter.mp hq).2
    · intro p hp
      obtain ⟨q, hq, rfl⟩ := List.mem_map.mp hp
      simpa using ⟨_, hq⟩
  rw [assignOnto_eq hnodup (assignOnto table pairs), hnew,
    assignAll_of_nodup (nodup_assignAll _), assignOnto_eq hnodup pairs]
  congr 1
  refine List.map_congr_left fun p hp => ?_
  rw [← assignOnto_eq hnodup, hlatest p hp]
  rfl

end Fill

end StructForge.Live

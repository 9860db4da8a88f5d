import Mathlib.Data.List.Nodup
import Mathlib.Data.List.TakeWhile
import StructForge.Proofs.Steps
import StructForge.Struct.Imports

/-! # The table of imports

Imports only grow. What they bind was asked for, no name is bound twice, and an alias is given only
for a name that is bound already; an expression stays what it denotes while they grow. -/

namespace StructForge.Struct

/-- A type that a module refers to: the module that holds it, and its place there. -/
abbrev Reference := String × String

/-- Whether a type is reached by an import: the built-in types and the numeric ones are not. -/
def Reference.IsImported (r : Reference) : Prop := r.1 ≠ "builtins" ∧ r.1 ≠ "numpy"

instance (r : Reference) : Decidable r.IsImported :=
  inferInstanceAs (Decidable (r.1 ≠ "builtins" ∧ r.1 ≠ "numpy"))

section Sorting

variable {α : Type} {key : α → String} {x y : α} {xs : List α}

theorem perm_insertByText : (insertByText key x xs).Perm (x :: xs) := by
  induction xs with
  | nil => exact .refl _
  | cons y ys ih =>
    rw [insertByText]
    split
    · exact (ih.cons y).trans (.swap x y ys)
    · exact .refl _

theorem perm_sortByText : (sortByText key xs).Perm xs := by
  induction xs with
  | nil => exact .refl _
  | cons x xs ih => exact perm_insertByText.trans (ih.cons x)

theorem mem_sortByText : y ∈ sortByText key xs ↔ y ∈ xs := perm_sortByText.mem_iff

end Sorting

section Head

variable {name qualname : String}

theorem toList_splitHead (qualname : String) :
    (splitHead qualname).1.toList = qualname.toList.takeWhile (· != '.') ∧
      (splitHead qualname).2.toList = qualname.toList.dropWhile (· != '.') := by
  simp [splitHead]

/-- The parts of a dotted name make it up. -/
theorem splitHead_append_self (qualname : String) :
    (splitHead qualname).1 ++ (splitHead qualname).2 = qualname := by
  obtain ⟨hhead, hrest⟩ := toList_splitHead qualname
  rw [← String.toList_inj, String.toList_append, hhead, hrest, List.takeWhile_append_dropWhile]

theorem dot_not_mem_splitHead (qualname : String) : '.' ∉ (splitHead qualname).1.toList := by
  rw [(toList_splitHead qualname).1]
  intro hmem
  simpa using List.mem_takeWhile_imp hmem

/-- A rest is empty or begins with a dot. -/
theorem head?_splitHead (qualname : String) :
    (splitHead qualname).2 = "" ∨ (splitHead qualname).2.toList.head? = some '.' := by
  obtain ⟨-, hrest⟩ := toList_splitHead qualname
  cases hdrop : qualname.toList.dropWhile (· != '.') with
  | nil =>
    left
    rw [← String.toList_inj, hrest, hdrop]
    rfl
  | cons first others =>
    right
    have hfirst := List.head?_dropWhile_not (· != '.') qualname.toList
    rw [hdrop] at hfirst
    rw [hrest, hdrop]
    simpa using hfirst

/-- Putting another name without dots in front of a rest changes the head only. -/
theorem splitHead_append (hname : '.' ∉ name.toList) (qualname : String) :
    splitHead (name ++ (splitHead qualname).2) = (name, (splitHead qualname).2) := by
  have htake : (name ++ (splitHead qualname).2).toList.takeWhile (· != '.') = name.toList ∧
      (name ++ (splitHead qualname).2).toList.dropWhile (· != '.') =
        (splitHead qualname).2.toList := by
    rw [String.toList_append]
    have hall : ∀ c ∈ name.toList, (c != '.') = true := by
      intro c hc
      rw [bne_iff_ne]
      rintro rfl
      exact hname hc
    rw [List.takeWhile_append_of_pos hall, List.dropWhile_append_of_pos hall]
    rcases head?_splitHead qualname with hempty | hdot
    · simp [hempty]
    · cases hrest : (splitHead qualname).2.toList with
      | nil => simp
      | cons first others =>
        rw [hrest, List.head?_cons, Option.some.injEq] at hdot
        simp [hdot]
  apply Prod.ext
  · rw [← String.toList_inj, (toList_splitHead _).1, htake.1]
  · rw [← String.toList_inj, (toList_splitHead _).2, htake.2]

end Head

theorem dot_not_mem_aliasOf {module name : String} (h : '.' ∉ name.toList) :
    '.' ∉ (aliasOf module name).toList := by
  unfold aliasOf
  rw [String.toList_append, String.toList_append, String.toList_ofList]
  simp only [List.mem_append, List.mem_map, not_or, not_exists, not_and]
  refine ⟨⟨fun c _ => ?_, by decide⟩, h⟩
  split
  · decide
  · assumption

namespace Imports

variable {i j k : Imports} {asked : List Reference} {module name qualname e localName : String}

/-- Imports hold what other imports hold. -/
structure Extends (i j : Imports) : Prop where
  bindings : ∀ b ∈ i.bindings, b ∈ j.bindings
  runtime : ∀ n ∈ i.runtime, n ∈ j.runtime
  needsNumpy : i.needsNumpy = true → j.needsNumpy = true

theorem Extends.refl (i : Imports) : i.Extends i := ⟨fun _ h => h, fun _ h => h, fun h => h⟩

theorem Extends.trans (h : i.Extends j) (h' : j.Extends k) : i.Extends k :=
  ⟨fun b hb => h'.bindings b (h.bindings b hb), fun n hn => h'.runtime n (h.runtime n hn),
    fun hn => h'.needsNumpy (h.needsNumpy hn)⟩

/-- Imports that come from asking for the given types: every binding was asked for, no name is bound
twice, and an alias stands for a name that was taken. -/
structure IsSound (asked : List Reference) (i : Imports) : Prop where
  nodup : (i.bindings.map (·.localName)).Nodup
  origin : ∀ b ∈ i.bindings, ∃ r ∈ asked, r.IsImported ∧ b.module = r.1 ∧ b.name = (splitHead r.2).1
  aliased : ∀ b ∈ i.bindings, b.localName = b.name ∨
    b.localName = aliasOf b.module b.name ∧ ∃ b' ∈ i.bindings, b'.localName = b.name
  bound : ∀ r ∈ asked, r.IsImported →
    ∃ b ∈ i.bindings, b.module = r.1 ∧ b.name = (splitHead r.2).1

theorem isSound_empty : IsSound [] {} := by
  constructor <;> simp

theorem IsSound.dot_not_mem (h : i.IsSound asked) {b : Binding} (hb : b ∈ i.bindings) :
    '.' ∉ b.localName.toList := by
  obtain ⟨r, -, -, -, hname⟩ := h.origin b hb
  have hdot := dot_not_mem_splitHead r.2
  rw [← hname] at hdot
  rcases h.aliased b hb with hlocal | ⟨hlocal, -⟩
  · rwa [hlocal]
  · rw [hlocal]
    exact dot_not_mem_aliasOf hdot

theorem IsSound.eq_of_localName (h : i.IsSound asked) {b b' : Binding} (hb : b ∈ i.bindings)
    (hb' : b' ∈ i.bindings) (heq : b.localName = b'.localName) : b = b' :=
  List.inj_on_of_nodup_map h.nodup hb hb' heq

theorem isBound_iff : i.isBound localName = true ↔ ∃ b ∈ i.bindings, b.localName = localName := by
  simp [isBound]

theorem find?_mem {b : Binding} (h : i.find? module name = some b) :
    b ∈ i.bindings ∧ b.module = module ∧ b.name = name := by
  have hpred := List.find?_some h
  simp only [Bool.and_eq_true, beq_iff_eq] at hpred
  exact ⟨List.mem_of_find?_eq_some h, hpred.1, hpred.2⟩

/-- A name is bound once and for all, to itself or, if it is taken, to its alias. -/
theorem bind_ok (h : i.bind module name = .ok (localName, j)) :
    (i = j ∧ ∃ b ∈ i.bindings, b.module = module ∧ b.name = name ∧ b.localName = localName) ∨
    (j = { i with bindings := i.bindings ++ [⟨module, name, localName⟩] } ∧
      i.isBound localName = false ∧
      (localName = name ∨ localName = aliasOf module name ∧ i.isBound name = true)) := by
  unfold bind at h
  split at h
  · rename_i b hfind
    obtain ⟨hmem, hmodule, hname⟩ := find?_mem hfind
    cases h
    exact .inl ⟨rfl, b, hmem, hmodule, hname, rfl⟩
  · cases htaken : i.isBound name with
    | false =>
      simp only [htaken, Bool.false_eq_true, if_false] at h
      cases h
      exact .inr ⟨rfl, htaken, .inl rfl⟩
    | true =>
      simp only [htaken, if_true] at h
      split at h
      · cases h
      · rename_i hfree
        cases h
        exact .inr ⟨rfl, by simpa using hfree, .inr ⟨rfl, rfl⟩⟩

/-- An expression denotes a type: a built-in one by its place, a numeric one below the library, and
another one by what its first name is bound to. -/
def Denotes (i : Imports) (r : Reference) (e : String) : Prop :=
  (r.1 = "builtins" ∧ e = r.2) ∨
  (r.1 = "numpy" ∧ e = "np." ++ r.2 ∧ i.needsNumpy = true) ∨
  (r.IsImported ∧ ∃ b ∈ i.bindings, b.module = r.1 ∧ b.name = (splitHead r.2).1 ∧
    e = b.localName ++ (splitHead r.2).2)

theorem Denotes.mono {r : Reference} (h : i.Denotes r e) (hext : i.Extends j) : j.Denotes r e := by
  rcases h with h | ⟨hmodule, he, hnumpy⟩ | ⟨himported, b, hb, hrest⟩
  · exact .inl h
  · exact .inr (.inl ⟨hmodule, he, hext.needsNumpy hnumpy⟩)
  · exact .inr (.inr ⟨himported, b, hext.bindings b hb, hrest⟩)

theorem IsSound.of_bindings_eq (h : i.IsSound asked) (hj : j.bindings = i.bindings) :
    j.IsSound asked := by
  obtain ⟨hnodup, horigin, halias, hbound⟩ := h
  constructor <;> rw [hj] <;> assumption

/-- Asking for a type that needs no import changes nothing about the bindings. -/
theorem IsSound.ask_other (h : i.IsSound asked) {r : Reference} (hr : ¬r.IsImported) :
    i.IsSound (asked ++ [r]) where
  nodup := h.nodup
  origin b hb := by
    obtain ⟨r', hr', hrest⟩ := h.origin b hb
    exact ⟨r', List.mem_append_left _ hr', hrest⟩
  aliased := h.aliased
  bound r' hr' himported := by
    rw [List.mem_append, List.mem_singleton] at hr'
    rcases hr' with hr' | rfl
    · exact h.bound r' hr' himported
    · exact absurd himported hr

theorem IsSound.bind (h : i.IsSound asked) {r : Reference} (hr : r.IsImported)
    (hbind : i.bind r.1 (splitHead r.2).1 = .ok (localName, j)) :
    j.IsSound (asked ++ [r]) ∧ i.Extends j ∧
      ∃ b ∈ j.bindings, b.module = r.1 ∧ b.name = (splitHead r.2).1 ∧ b.localName = localName := by
  rcases bind_ok hbind with ⟨rfl, b, hb, hmodule, hname, hlocal⟩ | ⟨rfl, hfree, hlocal⟩
  · refine ⟨⟨h.nodup, fun b hb => ?_, h.aliased, fun r' hr' himported => ?_⟩, .refl _, b, hb,
      hmodule, hname, hlocal⟩
    · obtain ⟨r', hr', hrest⟩ := h.origin b hb
      exact ⟨r', List.mem_append_left _ hr', hrest⟩
    · rw [List.mem_append, List.mem_singleton] at hr'
      rcases hr' with hr' | rfl
      · exact h.bound r' hr' himported
      · exact ⟨b, hb, hmodule, hname⟩
  · set new : Binding := ⟨r.1, (splitHead r.2).1, localName⟩ with hnew
    have hold : ∀ b ∈ i.bindings, b ∈ i.bindings ++ [new] := fun b hb =>
      List.mem_append_left _ hb
    have hmem : new ∈ i.bindings ++ [new] := List.mem_append_right _ (List.mem_singleton_self _)
    refine ⟨⟨?_, fun b hb => ?_, fun b hb => ?_, fun r' hr' himported => ?_⟩,
      ⟨hold, fun _ hn => hn, fun hn => hn⟩, new, hmem, rfl, rfl, rfl⟩
    · rw [List.map_append, List.nodup_append]
      refine ⟨h.nodup, List.nodup_singleton _, ?_⟩
      intro taken htaken other hother heq
      obtain ⟨b, hb, rfl⟩ := List.mem_map.mp htaken
      rw [List.map_singleton, List.mem_singleton] at hother
      have hbound := isBound_iff.mpr ⟨b, hb, heq.trans hother⟩
      rw [hfree] at hbound
      cases hbound
    · rw [List.mem_append, List.mem_singleton] at hb
      rcases hb with hb | rfl
      · obtain ⟨r', hr', hrest⟩ := h.origin b hb
        exact ⟨r', List.mem_append_left _ hr', hrest⟩
      · exact ⟨r, List.mem_append_right _ (List.mem_singleton_self _), hr, rfl, rfl⟩
    · rw [List.mem_append, List.mem_singleton] at hb
      rcases hb with hb | rfl
      · rcases h.aliased b hb with hsame | ⟨halias, b', hb', hname⟩
        · exact .inl hsame
        · exact .inr ⟨halias, b', hold b' hb', hname⟩
      · rcases hlocal with hsame | ⟨halias, htaken⟩
        · exact .inl hsame
        · obtain ⟨b', hb', hname⟩ := isBound_iff.mp htaken
          exact .inr ⟨halias, b', hold b' hb', hname⟩
    · rw [List.mem_append, List.mem_singleton] at hr'
      rcases hr' with hr' | rfl
      · obtain ⟨b, hb, hrest⟩ := h.bound r' hr' himported
        exact ⟨b, hold b hb, hrest⟩
      · exact ⟨new, hmem, rfl, rfl⟩

theorem IsSound.expression (h : i.IsSound asked) {r : Reference}
    (hexpr : i.expression r.1 r.2 = .ok (e, j)) :
    j.IsSound (asked ++ [r]) ∧ i.Extends j ∧ j.Denotes r e := by
  unfold Imports.expression at hexpr
  by_cases hbuiltins : r.1 = "builtins"
  · rw [if_pos hbuiltins] at hexpr
    cases hexpr
    exact ⟨h.ask_other fun himported => himported.1 hbuiltins, .refl _, .inl ⟨hbuiltins, rfl⟩⟩
  rw [if_neg hbuiltins] at hexpr
  by_cases hnumpy : r.1 = "numpy"
  · rw [if_pos hnumpy] at hexpr
    cases hexpr
    refine ⟨(h.ask_other fun himported => himported.2 hnumpy).of_bindings_eq rfl,
      ⟨fun _ hb => hb, fun _ hn => hn, fun _ => rfl⟩, .inr (.inl ⟨hnumpy, rfl, rfl⟩)⟩
  rw [if_neg hnumpy] at hexpr
  split at hexpr
  · cases hexpr
  · obtain ⟨⟨localName, j'⟩, hbind, hpure⟩ := bind_eq_ok.mp hexpr
    cases hpure
    have himported : r.IsImported := ⟨hbuiltins, hnumpy⟩
    obtain ⟨hsound, hext, b, hb, hmodule, hname, rfl⟩ := h.bind himported hbind
    exact ⟨hsound, hext, .inr (.inr ⟨himported, b, hb, hmodule, hname, rfl⟩)⟩

theorem IsSound.use (h : i.IsSound asked) (names : List RuntimeName) :
    (i.use names).IsSound asked ∧ i.Extends (i.use names) ∧
      ∀ n ∈ names, n ∈ (i.use names).runtime :=
  ⟨h.of_bindings_eq rfl, ⟨fun _ hb => hb, fun _ hn => List.mem_append_left _ hn, fun hn => hn⟩,
    fun _ hn => List.mem_append_right _ hn⟩

theorem mem_lines {b : Binding} : b ∈ i.lines.flatMap (·.names) ↔ b ∈ i.bindings := by
  simp only [lines, List.mem_flatMap, List.mem_map, mem_sortByText, List.mem_eraseDups]
  constructor
  · rintro ⟨line, ⟨module, -, rfl⟩, hb⟩
    rw [mem_sortByText, List.mem_filter] at hb
    exact hb.1
  · intro hb
    refine ⟨_, ⟨b.module, ⟨b, hb, rfl⟩, rfl⟩, ?_⟩
    rw [mem_sortByText, List.mem_filter]
    exact ⟨hb, by simp⟩

theorem mem_runtimeNames {n : RuntimeName} : n ∈ i.runtimeNames ↔ n ∈ i.runtime := by
  have hall : n ∈ RuntimeName.all := by cases n <;> decide
  simp [runtimeNames, hall]

end Imports

end StructForge.Struct

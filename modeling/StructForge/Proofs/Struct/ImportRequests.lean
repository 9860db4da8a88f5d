import Mathlib.Data.List.Nodup
import Mathlib.Data.String.Basic
import StructForge.Proofs.Struct.ImportTable

/-! # Requests to a table of imports

A table of imports is asked for expressions in any order, and as often as one likes. Each pair of a
module and a name that was asked for has one local name of its own and is written in the import
lines once, in the order of modules and names. By these lines an expression denotes the type that it
was given for, whatever was asked for after it. -/

namespace StructForge

section Sorting

variable {α : Type}

theorem nodup_eraseDups [BEq α] [LawfulBEq α] (xs : List α) : xs.eraseDups.Nodup := by
  match xs with
  | [] => simp
  | x :: rest =>
    rw [List.eraseDups_cons, List.nodup_cons]
    exact ⟨by simp [List.mem_eraseDups], nodup_eraseDups _⟩
termination_by xs.length
decreasing_by exact Nat.lt_succ_of_le (List.length_filter_le ..)

theorem pairwise_insertByText {key : α → String} {x : α} {xs : List α}
    (h : xs.Pairwise fun a b => key a ≤ key b) :
    (Struct.insertByText key x xs).Pairwise fun a b => key a ≤ key b := by
  induction xs with
  | nil => exact List.pairwise_singleton _ _
  | cons y ys ih =>
    obtain ⟨hy, hys⟩ := List.pairwise_cons.mp h
    rw [Struct.insertByText]
    split
    · rename_i hlt
      refine List.pairwise_cons.mpr ⟨fun z hz => ?_, ih hys⟩
      rcases List.mem_cons.mp (Struct.perm_insertByText.mem_iff.mp hz) with rfl | hz
      · exact hlt.le
      · exact hy z hz
    · rename_i hge
      refine List.pairwise_cons.mpr ⟨fun z hz => ?_, h⟩
      rcases List.mem_cons.mp hz with rfl | hz
      · exact not_lt.mp hge
      · exact (not_lt.mp hge).trans (hy z hz)

theorem pairwise_le_sortByText {key : α → String} {xs : List α} :
    (Struct.sortByText key xs).Pairwise fun a b => key a ≤ key b := by
  induction xs with
  | nil => exact .nil
  | cons x xs ih => exact pairwise_insertByText ih

theorem pairwise_sortByText {key : α → String} {xs : List α} (h : (xs.map key).Nodup) :
    ((Struct.sortByText key xs).map key).Pairwise (· < ·) := by
  have hne : ((Struct.sortByText key xs).map key).Nodup :=
    (Struct.perm_sortByText.map key).nodup_iff.mpr h
  rw [List.pairwise_map]
  exact pairwise_le_sortByText.and (List.pairwise_map.mp hne) |>.imp fun hab => lt_of_le_of_ne hab.1 hab.2

end Sorting

namespace Struct

/-- The module that a type is imported from, and the name that is imported for it. -/
def Reference.root (r : Reference) : String × String := (r.1, (splitHead r.2).1)

def Binding.root (b : Binding) : String × String := (b.module, b.name)

def importedRoots (asked : List Reference) : List (String × String) :=
  (asked.filter fun r => decide r.IsImported).map Reference.root

theorem mem_importedRoots {asked : List Reference} {p : String × String} :
    p ∈ importedRoots asked ↔ ∃ r ∈ asked, r.IsImported ∧ r.root = p := by
  simp [importedRoots, and_assoc]

/-- The import that is written as a text, for names without blanks. -/
def Binding.ofText (module text : String) : Binding :=
  let name := String.ofList (text.toList.takeWhile (· != ' '))
  match text.toList.dropWhile (· != ' ') with
  | ' ' :: 'a' :: 's' :: ' ' :: rest => ⟨module, name, String.ofList rest⟩
  | _ => ⟨module, name, name⟩

theorem Binding.ofText_text {b : Binding} (h : ' ' ∉ b.name.toList) :
    Binding.ofText b.module b.text = b := by
  have hall : ∀ c ∈ b.name.toList, (c != ' ') = true := by
    intro c hc
    rw [bne_iff_ne]
    rintro rfl
    exact h hc
  have htake : b.name.toList.takeWhile (· != ' ') = b.name.toList :=
    List.takeWhile_eq_self_iff.mpr hall
  have hdrop : b.name.toList.dropWhile (· != ' ') = [] := List.dropWhile_eq_nil_iff.mpr hall
  unfold text
  split
  · rename_i hsame
    simp only [ofText, htake, hdrop, String.ofList_toList]
    exact congrArg (Binding.mk b.module b.name) hsame.symm
  · have htext : (s!"{b.name} as {b.localName}").toList =
        b.name.toList ++ ' ' :: 'a' :: 's' :: ' ' :: b.localName.toList := by
      simp [toString, String.toList_append]
    simp only [ofText, htext, List.takeWhile_append_of_pos hall, List.dropWhile_append_of_pos hall,
      List.takeWhile_cons, List.dropWhile_cons]
    simp

namespace Imports

variable {i j : Imports} {asked : List Reference} {answers : List String} {r : Reference}
  {module name localName e : String}

def askAll (i : Imports) : List Reference → Except ImportFault (List String × Imports)
  | [] => .ok ([], i)
  | r :: rest => do
    let (e, i) ← i.expression r.1 r.2
    let (answers, i) ← i.askAll rest
    return (e :: answers, i)

/-- What an expression denotes by some imports, of which the latest counts: the first name of the
expression is what an import binds, and the others are found below that. -/
def denoted? (imports : List Binding) (e : String) : Option Reference :=
  (imports.reverse.find? fun b => b.localName == (splitHead e).1).map fun b =>
    (b.module, b.name ++ (splitHead e).2)

/-- What imports say about the requests that they come from, and about the answers to these. -/
structure Serves (i : Imports) (asked : List Reference) (answers : List String) : Prop where
  localNames : (i.bindings.map (·.localName)).Nodup
  roots : (i.bindings.map (·.root)).Nodup
  mem_roots : ∀ p, p ∈ i.bindings.map (·.root) ↔ p ∈ importedRoots asked
  perm_lines : (i.lines.flatMap (·.names)).Perm i.bindings
  modules : (i.lines.map (·.module)).Pairwise (· < ·)
  names : ∀ line ∈ i.lines,
    (line.names.map (·.name)).Pairwise (· < ·) ∧ ∀ b ∈ line.names, b.module = line.module
  texts : (∀ p ∈ importedRoots asked, ' ' ∉ p.2.toList) →
    ∀ line ∈ i.lines, (line.names.map (·.text)).map (Binding.ofText line.module) = line.names
  denotes : List.Forall₂
    (fun r e => r.IsImported → denoted? (i.lines.flatMap (·.names)) e = some r) asked answers
  steady : ∀ p ∈ asked.zip answers, ∀ q ∈ asked.zip answers, p.1.IsImported →
    p.1.root = q.1.root → (splitHead p.2).1 = (splitHead q.2).1

/-! ## Requests one by one -/

theorem nodup_roots_bind (h : (i.bindings.map (·.root)).Nodup)
    (hbind : i.bind module name = .ok (localName, j)) : (j.bindings.map (·.root)).Nodup := by
  cases hfind : i.find? module name with
  | some b =>
    unfold Imports.bind at hbind
    rw [hfind] at hbind
    cases hbind
    exact h
  | none =>
    rcases bind_ok hbind with ⟨rfl, -⟩ | ⟨rfl, -⟩
    · exact h
    · have hnew : (module, name) ∉ i.bindings.map (·.root) := by
        intro hmem
        obtain ⟨b, hb, hroot⟩ := List.mem_map.mp hmem
        have hneq := List.find?_eq_none.mp hfind b hb
        simp only [Binding.root, Prod.mk.injEq] at hroot
        simp [hroot] at hneq
      rw [List.map_append, List.map_singleton, ← List.concat_eq_append]
      exact h.concat hnew

theorem nodup_roots_expression (h : (i.bindings.map (·.root)).Nodup)
    (hexpr : i.expression r.1 r.2 = .ok (e, j)) : (j.bindings.map (·.root)).Nodup := by
  unfold Imports.expression at hexpr
  split at hexpr
  · cases hexpr
    exact h
  split at hexpr
  · cases hexpr
    exact h
  split at hexpr
  · cases hexpr
  · obtain ⟨⟨localName, j'⟩, hbind, hpure⟩ := bind_eq_ok.mp hexpr
    cases hpure
    exact nodup_roots_bind h hbind

/-- A run of requests keeps the imports sound. Each answer denotes its type at the end of the run,
whatever was asked for after it. -/
theorem askAll_ok {before : List Reference} (hi : i.IsSound before)
    (hroots : (i.bindings.map (·.root)).Nodup) (h : i.askAll asked = .ok (answers, j)) :
    j.IsSound (before ++ asked) ∧ (j.bindings.map (·.root)).Nodup ∧ i.Extends j ∧
      List.Forall₂ j.Denotes asked answers := by
  induction asked generalizing i before answers with
  | nil =>
    cases h
    rw [List.append_nil]
    exact ⟨hi, hroots, .refl _, .nil⟩
  | cons r rest ih =>
    obtain ⟨⟨e, i₁⟩, hexpr, h⟩ := bind_eq_ok.mp h
    obtain ⟨⟨answers', i₂⟩, hrest, hpure⟩ := bind_eq_ok.mp h
    cases hpure
    obtain ⟨hsound₁, hext₁, hdenotes⟩ := hi.expression hexpr
    obtain ⟨hsound₂, hroots₂, hext₂, hall⟩ :=
      ih hsound₁ (nodup_roots_expression hroots hexpr) hrest
    rw [List.append_assoc] at hsound₂
    exact ⟨hsound₂, hroots₂, hext₁.trans hext₂, .cons (hdenotes.mono hext₂) hall⟩

/-! ## Lines -/

theorem mem_roots_iff (h : i.IsSound asked) (p : String × String) :
    p ∈ i.bindings.map (·.root) ↔ p ∈ importedRoots asked := by
  rw [mem_importedRoots, List.mem_map]
  constructor
  · rintro ⟨b, hb, rfl⟩
    obtain ⟨r, hr, himported, hmodule, hname⟩ := h.origin b hb
    exact ⟨r, hr, himported, Prod.ext hmodule.symm hname.symm⟩
  · rintro ⟨r, hr, himported, rfl⟩
    obtain ⟨b, hb, hmodule, hname⟩ := h.bound r hr himported
    exact ⟨b, hb, Prod.ext hmodule hname⟩

theorem pairwise_modules (i : Imports) : (i.lines.map (·.module)).Pairwise (· < ·) := by
  have hmodules : i.lines.map (·.module) =
      (sortByText id (i.bindings.map (·.module)).eraseDups).map id := by
    simp [lines, Function.comp_def]
  rw [hmodules]
  refine pairwise_sortByText ?_
  rw [List.map_id]
  exact nodup_eraseDups _

theorem names_of_mem_lines (hroots : (i.bindings.map (·.root)).Nodup) {line : ImportLine}
    (hline : line ∈ i.lines) :
    (line.names.map (·.name)).Pairwise (· < ·) ∧ ∀ b ∈ line.names, b.module = line.module := by
  obtain ⟨module, -, rfl⟩ := List.mem_map.mp hline
  have hmodule : ∀ b ∈ i.bindings.filter (·.module == module), b.module = module := by
    intro b hb
    simpa using (List.mem_filter.mp hb).2
  constructor
  · refine pairwise_sortByText ?_
    -- within a module the name says which import it is
    have hpairs : ((i.bindings.filter (·.module == module)).map (·.name)).map (Prod.mk module) =
        (i.bindings.filter (·.module == module)).map (·.root) := by
      rw [List.map_map]
      exact List.map_congr_left fun b hb => congrArg (Prod.mk · b.name) (hmodule b hb).symm
    have hnodup : ((i.bindings.filter (·.module == module)).map (·.root)).Nodup :=
      hroots.sublist (List.filter_sublist.map _)
    rw [← hpairs] at hnodup
    exact hnodup.of_map _
  · intro b hb
    exact hmodule b (mem_sortByText.mp hb)

theorem perm_lines (hroots : (i.bindings.map (·.root)).Nodup) :
    (i.lines.flatMap (·.names)).Perm i.bindings := by
  have hlines : (i.lines.flatMap (·.names)).Nodup := by
    rw [List.nodup_flatMap]
    refine ⟨fun line hline => ?_, ?_⟩
    · have hsorted := (names_of_mem_lines hroots hline).1
      have hnames : (line.names.map (·.name)).Nodup := hsorted.imp fun hlt => ne_of_lt hlt
      exact hnames.of_map _
    · refine (List.pairwise_map.mp (pairwise_modules i)).imp_of_mem ?_
      intro line other hline hother hlt b hb hb'
      rw [← (names_of_mem_lines hroots hline).2 b hb,
        ← (names_of_mem_lines hroots hother).2 b hb'] at hlt
      exact lt_irrefl _ hlt
  exact (List.perm_ext_iff_of_nodup hlines (hroots.of_map _)).mpr fun _ => mem_lines

/-- The first name of an expression leads through the lines to its type. -/
theorem denoted?_of_denotes (h : i.IsSound asked) (himported : r.IsImported)
    (hdenotes : i.Denotes r e) : denoted? (i.lines.flatMap (·.names)) e = some r := by
  obtain ⟨hbuiltins, -⟩ | ⟨hnumpy, -⟩ | ⟨-, b, hb, hmodule, hname, rfl⟩ := hdenotes
  · exact absurd hbuiltins himported.1
  · exact absurd hnumpy himported.2
  unfold denoted?
  rw [splitHead_append (h.dot_not_mem hb)]
  have hfound : (i.lines.flatMap (·.names)).reverse.find?
      (fun b' => b'.localName == b.localName) = some b := by
    cases hfind : (i.lines.flatMap (·.names)).reverse.find?
        (fun b' => b'.localName == b.localName) with
    | none =>
      have hne := List.find?_eq_none.mp hfind b (List.mem_reverse.mpr (mem_lines.mpr hb))
      simp at hne
    | some b' =>
      have hb' := mem_lines.mp (List.mem_reverse.mp (List.mem_of_find?_eq_some hfind))
      have hsame : b'.localName = b.localName := by simpa using List.find?_some hfind
      rw [h.eq_of_localName hb' hb hsame]
  rw [hfound, Option.map_some, hmodule, hname, splitHead_append_self]

theorem splitHead_eq_of_denotes (h : i.IsSound asked) (hroots : (i.bindings.map (·.root)).Nodup)
    {r' : Reference} {e' : String} (himported : r.IsImported) (hroot : r.root = r'.root)
    (hdenotes : i.Denotes r e) (hdenotes' : i.Denotes r' e') :
    (splitHead e).1 = (splitHead e').1 := by
  have himported' : r'.IsImported := by
    have hmodule : r.root.1 = r'.root.1 := by rw [hroot]
    exact ⟨hmodule ▸ himported.1, hmodule ▸ himported.2⟩
  have hbound {r : Reference} {e : String} (himported : r.IsImported) (hdenotes : i.Denotes r e) :
      ∃ b ∈ i.bindings, b.root = r.root ∧ (splitHead e).1 = b.localName := by
    obtain ⟨hbuiltins, -⟩ | ⟨hnumpy, -⟩ | ⟨-, b, hb, hmodule, hname, rfl⟩ := hdenotes
    · exact absurd hbuiltins himported.1
    · exact absurd hnumpy himported.2
    · exact ⟨b, hb, Prod.ext hmodule hname, by rw [splitHead_append (h.dot_not_mem hb)]⟩
  obtain ⟨b, hb, hroot₁, hhead⟩ := hbound himported hdenotes
  obtain ⟨b', hb', hroot₂, hhead'⟩ := hbound himported' hdenotes'
  have hsame : b = b' :=
    List.inj_on_of_nodup_map hroots hb hb' (hroot₁.trans (hroot.trans hroot₂.symm))
  rw [hhead, hhead', hsame]

/-! ## Runs of requests -/

/-- After any requests, none of which is refused, each module and name that was asked for is bound
to one name and written once, and every answer denotes its type by the lines that are written. -/
theorem serves_of_askAll (h : askAll {} asked = .ok (answers, i)) : i.Serves asked answers := by
  obtain ⟨hsound, hroots, -, hdenotes⟩ := askAll_ok isSound_empty List.nodup_nil h
  rw [List.nil_append] at hsound
  exact
    { localNames := hsound.nodup
      roots := hroots
      mem_roots := mem_roots_iff hsound
      perm_lines := perm_lines hroots
      modules := pairwise_modules i
      names := fun line hline => names_of_mem_lines hroots hline
      texts := by
        intro hblank line hline
        have hmodule := (names_of_mem_lines hroots hline).2
        rw [List.map_map]
        refine (List.map_congr_left fun b hb => ?_).trans (List.map_id _)
        have hmem : b ∈ i.bindings := mem_lines.mp (List.mem_flatMap.mpr ⟨line, hline, hb⟩)
        rw [Function.comp_apply, ← hmodule b hb]
        exact Binding.ofText_text
          (hblank b.root ((mem_roots_iff hsound _).mp (List.mem_map_of_mem hmem)))
      denotes := hdenotes.imp fun r e hre himported => denoted?_of_denotes hsound himported hre
      steady := by
        intro p hp q hq himported hroot
        exact splitHead_eq_of_denotes hsound hroots himported hroot
          (List.forall₂_zip hdenotes hp) (List.forall₂_zip hdenotes hq) }

/-- Requests in which an alias is called for, between two for the name that it stands aside for. -/
def rankRequests : List Reference :=
  [("game.units", "Unit"), ("game.rivals", "Unit.Rank"), ("numpy", "int8"),
    ("game.units", "Unit.Kind"), ("game.rivals", "Unit")]

/-- The second of two modules with one name has its alias from then on. -/
theorem serves_rankRequests :
    ∃ i, askAll {} rankRequests = .ok
      (["Unit", "game_rivals_Unit.Rank", "np.int8", "Unit.Kind", "game_rivals_Unit"], i) ∧
      i.Serves rankRequests
        ["Unit", "game_rivals_Unit.Rank", "np.int8", "Unit.Kind", "game_rivals_Unit"] ∧
      i.bindings.map (·.text) = ["Unit", "Unit as game_rivals_Unit"] := by
  refine ⟨⟨[⟨"game.units", "Unit", "Unit"⟩, ⟨"game.rivals", "Unit", "game_rivals_Unit"⟩], [], true⟩,
    rfl, serves_of_askAll rfl, ?_⟩
  decide +kernel

end Imports

end Struct

end StructForge

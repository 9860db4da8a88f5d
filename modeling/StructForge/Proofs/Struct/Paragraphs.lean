import Mathlib.Data.List.TakeWhile
import StructForge.Proofs.Struct.TextReading

/-! # Paragraphs of a module

Blank lines divide the text of a module into paragraphs, which can be found again because no line of
a paragraph is blank or broken. -/

namespace StructForge.Struct

open Text

/-! ## Paragraphs of a text -/

section Joining

variable {α : Type} {sep : List α} {x : α}

theorem intercalate_append {ps qs : List (List α)} (hps : ps ≠ []) (hqs : qs ≠ []) :
    sep.intercalate (ps ++ qs) = sep.intercalate ps ++ sep ++ sep.intercalate qs := by
  obtain ⟨q, qs, rfl⟩ := List.exists_cons_of_ne_nil hqs
  induction ps with
  | nil => exact absurd rfl hps
  | cons p ps ih =>
    cases ps with
    | nil => simp [List.intercalate_cons_cons]
    | cons p' ps =>
      have ih := ih (List.cons_ne_nil _ _)
      rw [List.cons_append] at ih
      rw [List.cons_append, List.cons_append, List.intercalate_cons_cons, ih,
        List.intercalate_cons_cons]
      simp only [List.append_assoc]

theorem mem_of_mem_intercalate {ps : List (List α)} (h : x ∈ sep.intercalate ps) :
    x ∈ sep ∨ ∃ p ∈ ps, x ∈ p := by
  induction ps with
  | nil => cases h
  | cons p ps ih =>
    cases ps with
    | nil => exact .inr ⟨p, List.mem_cons_self, by simpa using h⟩
    | cons p' ps =>
      rw [List.intercalate_cons_cons, List.mem_append, List.mem_append] at h
      rcases h with (h | h) | h
      · exact .inr ⟨p, List.mem_cons_self, h⟩
      · exact .inl h
      · rcases ih h with h | ⟨p'', hp, hx⟩
        · exact .inl h
        · exact .inr ⟨p'', List.mem_cons_of_mem _ hp, hx⟩

end Joining

def IsPlain (text : String) : Prop := '\n' ∉ text.toList

instance (text : String) : Decidable (IsPlain text) :=
  inferInstanceAs (Decidable ('\n' ∉ text.toList))

def IsWritten (line : String) : Prop := line ≠ "" ∧ IsPlain line

instance (line : String) : Decidable (IsWritten line) :=
  inferInstanceAs (Decidable (line ≠ "" ∧ IsPlain line))

@[simp]
theorem isPlain_append {a b : String} : IsPlain (a ++ b) ↔ IsPlain a ∧ IsPlain b := by
  simp [IsPlain]

theorem isWritten_append {a b : String} (ha : a ≠ "") :
    IsWritten (a ++ b) ↔ IsPlain a ∧ IsPlain b := by
  simp [IsWritten, String.append_eq_empty_iff, ha]

@[simp]
theorem isWritten_indented {n : Nat} {line : String} :
    IsWritten (indented (n + 1) line) ↔ IsPlain line := by
  have hblank : IsPlain (String.ofList (List.replicate (4 * (n + 1)) ' ')) := by
    simp [IsPlain, List.mem_replicate]
  unfold indented
  rw [isWritten_append (by simp [← String.toList_inj]), and_iff_right hblank]

def paragraphs (text : String) : List (List String) :=
  ((text.toList.splitOn '\n').map String.ofList).dropLast.splitOn ""

theorem paragraphs_text {ps : List (List String)} (hps : ∀ p ∈ ps, ∀ line ∈ p, IsWritten line)
    (hne : [""].intercalate ps ≠ []) :
    paragraphs ("\n".intercalate ([""].intercalate ps) ++ "\n") = ps := by
  have hnil : ps ≠ [] := by
    rintro rfl
    exact hne rfl
  have hlines : ("\n".intercalate ([""].intercalate ps) ++ "\n").toList =
      ['\n'].intercalate (([""].intercalate ps).map String.toList ++ [[]]) := by
    rw [intercalate_append (by simpa using hne) (List.cons_ne_nil _ _), String.toList_append,
      String.toList_intercalate]
    simp
  have hbroken : ∀ cs ∈ ([""].intercalate ps).map String.toList ++ [[]], '\n' ∉ cs := by
    intro cs hcs
    rcases List.mem_append.mp hcs with hcs | hcs
    · obtain ⟨line, hline, rfl⟩ := List.mem_map.mp hcs
      rcases mem_of_mem_intercalate hline with hline | ⟨p, hp, hline⟩
      · rw [List.mem_singleton.mp hline]
        decide
      · exact (hps p hp line hline).2
    · rw [List.mem_singleton.mp hcs]
      exact List.not_mem_nil
  have hblank : ∀ p ∈ ps, "" ∉ p := fun p hp hmem => (hps p hp "" hmem).1 rfl
  unfold paragraphs
  rw [hlines, List.splitOn_intercalate '\n' hbroken (by simp), List.map_append, List.map_map]
  simp [Function.comp_def, List.splitOn_intercalate "" hblank hnil]

/-! ## Paragraphs of a module -/

namespace StructModel

/-- The import of the container library and those of other modules. -/
def fromLines (m : StructModel) : List String :=
  (if m.runtimeImports.isEmpty then []
    else [importText runtimeModule (m.runtimeImports.map (·.text))]) ++
    m.imports.map fun line => importText line.module (line.names.map (·.text))

def constructorHead (m : StructModel) : String :=
  indented 1 s!"def __init__(self, instance: {m.sourceExpr}) -> None:"

def constructorParagraphs (m : StructModel) : List (List String) :=
  match m.slots with
  | [] => [[m.constructorHead]]
  | s :: rest => (m.constructorHead :: s.conversion) :: rest.map (·.conversion)

def headParagraphs (m : StructModel) : List (List String) :=
  [[s!"# Generated by nativegen from {m.sourcePath}. Do not edit.",
      "# Regenerate with `nativegen generate`; manual changes are overwritten."],
    ["from __future__ import annotations"]] ++
  (if m.needsNumpy then [["import numpy as np"]] else []) ++
  [m.fromLines]

def methodParagraphs (m : StructModel) : List (List String) :=
  [[indented 1 "@classmethod",
      indented 1 s!"def default(cls) -> {m.typeName}:",
      indented 2 "\"\"\"Return a zeroed mirror that owns no allocated containers.\"\"\"",
      indented 2 "mirror = cls.__new__(cls)"] ++
      m.defaultLines ++
      [indented 2 "return mirror"],
    [indented 1 "def dispose(self) -> None:",
      indented 2 "\"\"\"Release every allocated container; safe to call repeatedly.\"\"\""] ++
      m.releaseLines,
    [indented 1 s!"def __enter__(self) -> {m.typeName}:", indented 2 "return self"],
    [indented 1 "def __exit__(self, *exc_info: object) -> None:", indented 2 "self.dispose()"]]

/-- The paragraphs of the module. The empty one stands for the second of two blank lines. -/
def paragraphs (m : StructModel) : List (List String) :=
  m.headParagraphs ++
  [[],
    [s!"class {m.typeName}:",
      indented 1 s!"\"\"\"Native mirror of ``{m.sourcePath}``.\"\"\""],
    [indented 1 s!"__slots__ = {m.slotsText}"],
    m.annotationLines] ++
  m.constructorParagraphs ++
  m.methodParagraphs

theorem intercalate_constructorParagraphs (m : StructModel) :
    [""].intercalate m.constructorParagraphs = m.constructorHead :: m.conversionLines := by
  unfold constructorParagraphs conversionLines
  rcases m.slots with _ | ⟨s, _ | ⟨s', rest⟩⟩
  · rfl
  · rfl
  · rfl

theorem lines_eq (m : StructModel) : m.lines = [""].intercalate m.paragraphs := by
  have hconstructor : m.constructorParagraphs ≠ [] := by
    unfold constructorParagraphs
    split <;> exact List.cons_ne_nil _ _
  have hmethods : m.methodParagraphs ≠ [] := List.cons_ne_nil _ _
  unfold paragraphs
  rw [intercalate_append (by simp) hmethods, intercalate_append (by simp) hconstructor,
    intercalate_constructorParagraphs,
    intercalate_append (by simp [headParagraphs]) (List.cons_ne_nil _ _)]
  unfold lines importLines headParagraphs fromLines methodParagraphs annotationLines
  cases m.needsNumpy <;>
    simp [List.intercalate_cons_cons, constructorHead]

end StructModel

/-! ## Lines of a module -/

def IsPath (text : String) : Prop := ∀ c ∈ text.toList, isPathChar c = true

def builtinZeros : List String := ["False", "0", "0.0"]

def Content.HasBuiltinZero (c : Content) : Prop :=
  ∀ type text, c = .scalar type (.literal text) → text ∈ builtinZeros

/-- Whether what a module has in its places is spelled as it should be there. -/
structure StructModel.IsSpelled (m : StructModel) : Prop where
  readable : m.isReadable = true
  path : IsPath m.sourcePath
  zeros : ∀ s ∈ m.slots, s.content.HasBuiltinZero

section Spelling

variable {text name : String}

theorem IsPath.isPlain (h : IsPath text) : IsPlain text := by
  intro hmem
  have hbreak : isPathChar '\n' = false := by decide
  rw [h _ hmem] at hbreak
  cases hbreak

theorem isPath_of_all (h : text.toList.all isPathChar = true) : IsPath text :=
  List.all_eq_true.mp h

theorem isPath_of_isName (h : isName text = true) : IsPath text := by
  intro c hc
  have hall := all_continue_of_spells (Bool.and_eq_true_iff.mp h).1
  simp [isPathChar, List.all_eq_true.mp hall c hc]

theorem isPath_of_pieces (h : ∀ piece ∈ pieces '.' text, IsPath piece) : IsPath text := by
  intro c hc
  by_cases hdot : c = '.'
  · simp [isPathChar, hdot]
  · obtain ⟨piece, hpiece, hmem⟩ := exists_mem_splitAt hc hdot
    exact h (String.ofList piece) (List.mem_map_of_mem hpiece) c (by simpa using hmem)

theorem isPath_of_isDottedName (h : isDottedName text = true) : IsPath text := by
  have hconstant : ∀ name ∈ ["None", "True", "False"], IsPath name := by
    simp only [List.forall_mem_cons]
    exact ⟨isPath_of_all (by decide), isPath_of_all (by decide),
      isPath_of_all (by decide), by simp⟩
  unfold isDottedName at h
  split at h
  · rename_i head rest hpieces
    rw [Bool.and_eq_true, Bool.or_eq_true, List.contains_iff_mem, List.all_eq_true] at h
    refine isPath_of_pieces ?_
    rw [hpieces]
    exact List.forall_mem_cons.mpr
      ⟨h.1.elim isPath_of_isName (hconstant head), fun piece hpiece =>
        isPath_of_isName (h.2 piece hpiece)⟩
  · cases h

theorem isPath_of_isModulePath (h : isModulePath text = true) : IsPath text := by
  intro c hc
  by_cases hdot : c = '.'
  · simp [isPathChar, hdot]
  · have hmem : c ∈ text.toList.dropWhile (· == '.') := by
      rw [← List.takeWhile_append_dropWhile (p := (· == '.')) (l := text.toList),
        List.mem_append] at hc
      refine hc.resolve_left fun htake => hdot ?_
      simpa using List.mem_takeWhile_imp htake
    unfold isModulePath at h
    simp only at h
    split at h
    · rename_i hempty
      have hnil : text.toList.dropWhile (· == '.') = [] := by
        simpa [← String.toList_inj] using hempty
      rw [hnil] at hmem
      cases hmem
    · have hpath := isPath_of_pieces fun piece hpiece =>
        isPath_of_isName (List.all_eq_true.mp h piece hpiece)
      exact hpath c (by rwa [String.toList_ofList])

theorem isPlain_intercalate {sep : String} {names : List String} (hsep : IsPlain sep)
    (hnames : ∀ name ∈ names, IsPlain name) : IsPlain (sep.intercalate names) := by
  intro hmem
  rw [String.toList_intercalate] at hmem
  rcases mem_of_mem_intercalate hmem with hmem | ⟨cs, hcs, hmem⟩
  · exact hsep hmem
  · obtain ⟨name, hname, rfl⟩ := List.mem_map.mp hcs
    exact hnames name hname hmem

theorem isPlain_quoted (text : String) : IsPlain (quoted text) := by
  have hdigit (n : Nat) (hn : n < 16) : hexDigit n ≠ '\n' := by
    revert n
    decide
  have hdigits (width n : Nat) : '\n' ∉ hexDigits width n := by
    induction width generalizing n with
    | zero => exact List.not_mem_nil
    | succ width ih =>
      rw [hexDigits, List.mem_append, List.mem_singleton, not_or]
      exact ⟨ih _, (hdigit _ (Nat.mod_lt _ (by decide))).symm⟩
  have hquote : chooseQuote text.toList ≠ '\n' := by
    unfold chooseQuote
    split <;> decide
  have hchar (c : Char) : '\n' ∉ quoteChar (chooseQuote text.toList) c := by
    unfold quoteChar
    split_ifs with hquoted hbreak
    · intro hmem
      rcases hquoted with rfl | rfl <;> simp [hquote.symm] at hmem
    · simp
    · simp
    · simp
    · simpa using Ne.symm hbreak
    all_goals simp [hdigits]
  simp [IsPlain, quoted, hquote.symm, hchar]

end Spelling

section Written

variable {m : StructModel} {s : Slot} {c : Content} {copy : Copy} {e : String}

theorem StructModel.isPath_of_isReadable (h : m.isReadable = true) :
    IsPath m.typeName ∧ IsPath m.sourceExpr := by
  simp only [StructModel.isReadable, Bool.and_eq_true] at h
  exact ⟨isPath_of_isName h.1.1.1, isPath_of_isDottedName h.1.1.2⟩

theorem StructModel.isPath_import (h : m.isReadable = true) {line : ImportLine}
    (hline : line ∈ m.imports) :
    IsPath line.module ∧ ∀ b ∈ line.names, IsPath b.name ∧ IsPath b.localName := by
  simp only [StructModel.isReadable, Bool.and_eq_true] at h
  have hparts := List.all_eq_true.mp h.1.2 line hline
  rw [Bool.and_eq_true, List.all_eq_true] at hparts
  refine ⟨isPath_of_isModulePath hparts.1, fun b hb => ?_⟩
  have hb := hparts.2 b hb
  rw [Binding.isReadable, Bool.and_eq_true] at hb
  exact ⟨isPath_of_isName hb.1, isPath_of_isName hb.2⟩

theorem StructModel.isPath_slot (h : m.isReadable = true) (hs : s ∈ m.slots) :
    IsPath s.name ∧ s.content.isReadable = true := by
  refine ⟨hasPathNames_of_isReadable h s hs, ?_⟩
  simp only [StructModel.isReadable, Bool.and_eq_true] at h
  exact (Bool.and_eq_true_iff.mp (List.all_eq_true.mp h.2 s hs)).2

theorem Copy.isPlain_text (he : IsPlain e) : IsPlain (copy.text e) := by
  cases copy <;> simp +decide [Copy.text, toString, he]

theorem KeyCopy.isPlain_text (keyCopy : KeyCopy) : IsPlain keyCopy.text := by
  cases keyCopy with
  | widen => exact (by decide : IsPlain "int(key.value)")
  | copy how => exact Copy.isPlain_text (by decide)

theorem Content.isPlain_declaration (h : c.isReadable = true) : IsPlain c.declaration := by
  cases c with
  | array element copy =>
    have helement := (isPath_of_isDottedName h).isPlain
    rw [declaration_array]
    simp +decide only [isPlain_append, helement, and_self]
  | map key value keyCopy valueCopy =>
    have hkey := (isPath_of_isDottedName (Bool.and_eq_true_iff.mp h).1).isPlain
    have hvalue := (isPath_of_isDottedName (Bool.and_eq_true_iff.mp h).2).isPlain
    rw [declaration_map]
    simp +decide only [isPlain_append, hkey, hvalue, and_self]
  | vector3 => exact (by decide : IsPlain "float3")
  | vector2 => exact (by decide : IsPlain "float2")
  | scalar type zero => exact (isPath_of_isDottedName h).isPlain

theorem Content.isPlain_default (h : c.isReadable = true) (hzero : c.HasBuiltinZero) :
    IsPlain c.default := by
  cases c with
  | array element copy =>
    have helement := (isPath_of_isDottedName h).isPlain
    rw [default_array]
    simp +decide only [isPlain_append, helement, and_self]
  | map key value keyCopy valueCopy =>
    have hkey := (isPath_of_isDottedName (Bool.and_eq_true_iff.mp h).1).isPlain
    have hvalue := (isPath_of_isDottedName (Bool.and_eq_true_iff.mp h).2).isPlain
    rw [default_map]
    simp +decide only [isPlain_append, hkey, hvalue, and_self]
  | vector3 => exact (by decide : IsPlain "float3()")
  | vector2 => exact (by decide : IsPlain "float2()")
  | scalar type zero =>
    have htype := (isPath_of_isDottedName h).isPlain
    cases zero with
    | literal text =>
      have hall : ∀ text ∈ builtinZeros, IsPlain text := by decide
      exact hall text (hzero type text rfl)
    | firstMember =>
      change IsPlain ("next(iter(" ++ type ++ "))")
      simp +decide [htype]
    | construct =>
      change IsPlain (type ++ "(0)")
      simp +decide [htype]

theorem Slot.isWritten_conversion (hname : IsPlain s.name) (h : s.content.isReadable = true) :
    ∀ line ∈ s.conversion, IsWritten line := by
  obtain ⟨name, content⟩ := s
  cases content with
  | array element copy =>
    have helement := (isPath_of_isDottedName h).isPlain
    have hitem : IsPlain (copy.text ("instance." ++ name ++ "[i]")) :=
      Copy.isPlain_text (by simp +decide [hname])
    simp +decide [conversion, toString, allocatorText, helement, hitem, hname]
  | map key value keyCopy valueCopy =>
    have hkey := (isPath_of_isDottedName (Bool.and_eq_true_iff.mp h).1).isPlain
    have hvalue := (isPath_of_isDottedName (Bool.and_eq_true_iff.mp h).2).isPlain
    have hitem : IsPlain (valueCopy.text "value") := Copy.isPlain_text (by decide)
    simp +decide [conversion, toString, allocatorText, hkey, hvalue, keyCopy.isPlain_text, hitem,
      hname]
  | vector3 | vector2 => simp +decide [conversion, Copy.text, toString, hname]
  | scalar type zero => simp +decide [conversion, hname]

theorem isPlain_binding {b : Binding} (h : IsPath b.name ∧ IsPath b.localName) :
    IsPlain b.text := by
  unfold Binding.text
  split
  · exact h.1.isPlain
  · simp +decide [toString, h.1.isPlain, h.2.isPlain]

theorem isWritten_importText {module : String} {names : List String} (hmodule : IsPlain module)
    (hnames : ∀ name ∈ names, IsPlain name) : IsWritten (importText module names) := by
  have hjoined := isPlain_intercalate (by decide : IsPlain ", ") hnames
  have htext : importText module names =
      "from " ++ (module ++ (" import " ++ ", ".intercalate names)) := by
    simp only [importText, toString, String.append_assoc]
  rw [htext, isWritten_append (by decide)]
  simp +decide only [isPlain_append, hmodule, hjoined, and_self]

namespace StructModel

theorem isPlain_slotsText (m : StructModel) : IsPlain m.slotsText := by
  unfold slotsText
  have hnames : ∀ name ∈ m.slots.map fun s => quoted s.name, IsPlain name := by
    intro name hname
    obtain ⟨s, -, rfl⟩ := List.mem_map.mp hname
    exact isPlain_quoted s.name
  generalize m.slots.map (fun s => quoted s.name) = names at hnames
  split
  · decide
  · simp +decide [toString, hnames _ (List.mem_singleton_self _)]
  · have hjoined := isPlain_intercalate (by decide : IsPlain ", ") hnames
    simp +decide [toString, hjoined]

theorem IsSpelled.isWritten_head (h : m.IsSpelled) :
    ∀ p ∈ m.headParagraphs, ∀ line ∈ p, IsWritten line := by
  have hheader : IsWritten s!"# Generated by nativegen from {m.sourcePath}. Do not edit." := by
    simp +decide only [toString, String.append_assoc, isWritten_append, isPlain_append,
      h.path.isPlain]
  have hfrom : ∀ line ∈ m.fromLines, IsWritten line := by
    unfold fromLines
    rw [List.forall_mem_append, List.forall_mem_map]
    constructor
    · split
      · simp
      · rw [List.forall_mem_singleton]
        refine isWritten_importText (by decide) ?_
        rw [List.forall_mem_map]
        exact fun n _ => (by cases n <;> decide)
    · intro line hline
      obtain ⟨hmodule, hnames⟩ := isPath_import h.readable hline
      refine isWritten_importText hmodule.isPlain ?_
      rw [List.forall_mem_map]
      exact fun b hb => isPlain_binding (hnames b hb)
  have hnumpy : ∀ p ∈ if m.needsNumpy then [["import numpy as np"]] else [], ∀ line ∈ p,
      IsWritten line := by
    split <;> decide
  unfold headParagraphs
  simp only [List.forall_mem_append, List.forall_mem_cons]
  exact ⟨⟨⟨⟨hheader, by decide, by simp⟩, ⟨by decide, by simp⟩, by simp⟩, hnumpy⟩, hfrom, by simp⟩

theorem IsSpelled.isWritten_constructor (h : m.IsSpelled) :
    ∀ p ∈ m.constructorParagraphs, ∀ line ∈ p, IsWritten line := by
  have hhead : IsWritten m.constructorHead := by
    have hsource := (isPath_of_isReadable h.readable).2.isPlain
    simp +decide [constructorHead, toString, hsource]
  have hslots : ∀ s ∈ m.slots, ∀ line ∈ s.conversion, IsWritten line := fun s hs =>
    Slot.isWritten_conversion (isPath_slot h.readable hs).1.isPlain (isPath_slot h.readable hs).2
  unfold constructorParagraphs
  split
  · simpa using hhead
  · rename_i s rest hm
    rw [hm, List.forall_mem_cons] at hslots
    rw [List.forall_mem_cons, List.forall_mem_cons, List.forall_mem_map]
    exact ⟨⟨hhead, hslots.1⟩, hslots.2⟩

theorem IsSpelled.isWritten_methods (h : m.IsSpelled) :
    ∀ p ∈ m.methodParagraphs, ∀ line ∈ p, IsWritten line := by
  have htype := (isPath_of_isReadable h.readable).1.isPlain
  have hdefault : ∀ line ∈ m.defaultLines, IsWritten line := by
    unfold defaultLines
    rw [List.forall_mem_map]
    intro s hs
    obtain ⟨hname, hcontent⟩ := isPath_slot h.readable hs
    simp +decide [toString, hname.isPlain, Content.isPlain_default hcontent (h.zeros s hs)]
  have hrelease : ∀ line ∈ m.releaseLines, IsWritten line := by
    unfold releaseLines
    simp only [List.forall_mem_flatMap]
    intro name hname
    obtain ⟨s, hs, rfl⟩ := List.mem_map.mp hname
    have hname := (isPath_slot h.readable (List.mem_of_mem_filter hs)).1.isPlain
    simp +decide [toString, hname]
  have htypeLines : IsWritten (indented 1 s!"def default(cls) -> {m.typeName}:") ∧
      IsWritten (indented 1 s!"def __enter__(self) -> {m.typeName}:") := by
    simp +decide [toString, htype]
  unfold methodParagraphs
  simp only [List.forall_mem_append, List.forall_mem_cons]
  exact ⟨⟨⟨⟨by decide, htypeLines.1, by decide, by decide, by simp⟩, hdefault⟩, by decide, by simp⟩,
    ⟨⟨by decide, by decide, by simp⟩, hrelease⟩, ⟨htypeLines.2, by decide, by simp⟩,
    ⟨by decide, by decide, by simp⟩, by simp⟩

theorem IsSpelled.paragraphs_text (h : m.IsSpelled) : Struct.paragraphs m.text = m.paragraphs := by
  have hannotations : ∀ line ∈ m.annotationLines, IsWritten line := by
    unfold annotationLines
    rw [List.forall_mem_map]
    intro s hs
    obtain ⟨hname, hcontent⟩ := isPath_slot h.readable hs
    simp +decide [toString, hname.isPlain, Content.isPlain_declaration hcontent]
  have hclass : IsWritten s!"class {m.typeName}:" := by
    simp +decide only [toString, String.append_assoc, isWritten_append, isPlain_append,
      (isPath_of_isReadable h.readable).1.isPlain]
  have hstruct : IsWritten (indented 1 s!"\"\"\"Native mirror of ``{m.sourcePath}``.\"\"\"") ∧
      IsWritten (indented 1 s!"__slots__ = {m.slotsText}") := by
    simp +decide [toString, h.path.isPlain, m.isPlain_slotsText]
  unfold text
  rw [lines_eq]
  refine Struct.paragraphs_text ?_ ?_
  · unfold paragraphs
    simp only [List.forall_mem_append, List.forall_mem_cons]
    exact ⟨⟨⟨h.isWritten_head, by simp, ⟨hclass, hstruct.1, by simp⟩, ⟨hstruct.2, by simp⟩,
      hannotations, by simp⟩, h.isWritten_constructor⟩, h.isWritten_methods⟩
  · rw [← lines_eq]
    simp [lines]

end StructModel

end Written

end StructForge.Struct

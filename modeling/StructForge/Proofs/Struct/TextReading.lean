import Mathlib.Data.List.Basic
import StructForge.Struct.Wellformed

/-! # Reading a module

What a module says about its slots can be read back from its lines: the annotations of the struct,
and what its constructor and its default assign first to each slot. -/

namespace StructForge.Struct

open Text

/-! ## Readers -/

def after? : List Char → List Char → Option (List Char)
  | [], cs => some cs
  | b :: bs, c :: cs => if b = c then after? bs cs else none
  | _ :: _, [] => none

def isPathChar (c : Char) : Bool := isIdentifierContinue c || c == '.'

/-- A dotted name and what follows it in a line, with fixed texts before it and between the two. -/
def read? (before between line : String) : Option (String × String) := do
  let rest ← after? before.toList line.toList
  let value ← after? between.toList (rest.dropWhile isPathChar)
  return (String.ofList (rest.takeWhile isPathChar), String.ofList value)

def annotated? : String → Option (String × String) := read? "    " ": "

/-- The name and the expression of an assignment to a slot of a variable in a method. -/
def assigned? (owner : String) : String → Option (String × String) :=
  read? ("        " ++ owner ++ ".") " = "

def enclosed? (before after text : String) : Option String := do
  let rest ← after? before.toList text.toList
  let inner ← after? after.toList.reverse rest.reverse
  return String.ofList inner.reverse

def declaredTypes? (declared : String) : Option String :=
  enclosed? "NativeArray[" "]" declared <|> enclosed? "NativeHashMap[" "]" declared

/-- The types that the constructor gives to the container in a slot. -/
def initialTypes? (name expression : String) : Option String :=
  let after := ", len(instance." ++ name ++ "), " ++ allocatorText ++ ")"
  enclosed? "NativeArray(" after expression <|> enclosed? "NativeHashMap(" after expression

def defaultTypes? (expression : String) : Option String :=
  enclosed? "NativeArray.unallocated(" ")" expression <|>
    enclosed? "NativeHashMap.unallocated(" ")" expression

section Readers

variable {before between line name value : String} {bs cs ds : List Char}

theorem after?_append (bs cs : List Char) : after? bs (bs ++ cs) = some cs := by
  induction bs with
  | nil => rfl
  | cons b bs ih => simp [after?, ih]

theorem read?_eq_some (before : String) {c : Char} {rest : List Char}
    (hname : ∀ c ∈ name.toList, isPathChar c = true) (hc : between.toList = c :: rest)
    (hstop : isPathChar c = false) :
    read? before between (before ++ (name ++ (between ++ value))) = some (name, value) := by
  unfold read?
  simp only [String.toList_append, after?_append, Option.bind_eq_bind, Option.bind_some]
  rw [List.dropWhile_append_of_pos hname, List.takeWhile_append_of_pos hname, hc]
  simp only [List.cons_append, List.dropWhile_cons, List.takeWhile_cons, hstop,
    Bool.false_eq_true, if_false, List.append_nil, String.ofList_toList]
  rw [← List.cons_append, after?_append]
  simp

theorem enclosed?_eq_some (before inner after : String) :
    enclosed? before after (before ++ (inner ++ after)) = some inner := by
  unfold enclosed?
  simp only [String.toList_append, after?_append, Option.bind_eq_bind, Option.bind_some,
    List.reverse_append]
  simp

end Readers

theorem exists_mem_splitAt {separator c : Char} {cs : List Char} (hc : c ∈ cs)
    (hne : c ≠ separator) : ∃ piece ∈ splitAt separator cs, c ∈ piece := by
  induction cs with
  | nil => cases hc
  | cons first rest ih =>
    unfold splitAt
    rcases List.mem_cons.mp hc with rfl | hmem
    · rw [if_neg hne]
      split <;> exact ⟨_, List.mem_cons_self, List.mem_cons_self⟩
    · obtain ⟨piece, hpiece, hmem⟩ := ih hmem
      split
      · exact ⟨piece, List.mem_cons_of_mem _ hpiece, hmem⟩
      · split
        · rename_i first' pieces hsplit
          rw [hsplit] at hpiece
          rcases List.mem_cons.mp hpiece with rfl | hpiece
          · exact ⟨_, List.mem_cons_self, List.mem_cons_of_mem _ hmem⟩
          · exact ⟨piece, List.mem_cons_of_mem _ hpiece, hmem⟩
        · rename_i hsplit
          exact absurd hsplit (splitAt_ne_nil _ _)

/-! ## Lines of a module -/

namespace StructModel

def annotationLines (m : StructModel) : List String :=
  m.slots.map fun s => indented 1 s!"{s.name}: {s.content.declaration}"

end StructModel

def Slot.initial (s : Slot) : String :=
  match s.content with
  | .array element _ => s!"NativeArray({element}, len(instance.{s.name}), {allocatorText})"
  | .map key value _ _ => s!"NativeHashMap({key}, {value}, len(instance.{s.name}), {allocatorText})"
  | .vector3 => Copy.vector3.text ("instance." ++ s.name)
  | .vector2 => Copy.vector2.text ("instance." ++ s.name)
  | .scalar .. => "instance." ++ s.name

section Containers

variable {element key value : String} {copy : Copy} {keyCopy : KeyCopy}

theorem Content.declaration_array :
    (Content.array element copy).declaration = "NativeArray[" ++ (element ++ "]") :=
  String.append_assoc

theorem Content.declaration_map : (Content.map key value keyCopy copy).declaration =
    "NativeHashMap[" ++ (key ++ ", " ++ value ++ "]") := by
  change "NativeHashMap[" ++ key ++ ", " ++ value ++ "]" = _
  simp only [String.append_assoc]

theorem Content.default_array :
    (Content.array element copy).default = "NativeArray.unallocated(" ++ (element ++ ")") :=
  String.append_assoc

theorem Content.default_map : (Content.map key value keyCopy copy).default =
    "NativeHashMap.unallocated(" ++ (key ++ ", " ++ value ++ ")") := by
  change "NativeHashMap.unallocated(" ++ key ++ ", " ++ value ++ ")" = _
  simp only [String.append_assoc]

end Containers

namespace StructModel

variable {m : StructModel}

def HasPathNames (m : StructModel) : Prop :=
  ∀ s ∈ m.slots, ∀ c ∈ s.name.toList, isPathChar c = true

theorem hasPathNames_of_isReadable (h : m.isReadable = true) : m.HasPathNames := by
  intro s hs c hc
  unfold isReadable at h
  have hslots := (Bool.and_eq_true_iff.mp h).2
  have hpieces := (Bool.and_eq_true_iff.mp (List.all_eq_true.mp hslots s hs)).1
  by_cases hdot : c = '.'
  · simp [isPathChar, hdot]
  · obtain ⟨piece, hpiece, hmem⟩ := exists_mem_splitAt hc hdot
    have hname := List.all_eq_true.mp hpieces (String.ofList piece) (List.mem_map_of_mem hpiece)
    have hall := all_continue_of_spells (Bool.and_eq_true_iff.mp hname).1
    rw [String.toList_ofList] at hall
    simp [isPathChar, List.all_eq_true.mp hall c hmem]

theorem annotated?_declaration {s : Slot} (hs : ∀ c ∈ s.name.toList, isPathChar c = true) :
    annotated? (indented 1 s!"{s.name}: {s.content.declaration}") =
      some (s.name, s.content.declaration) := by
  have hline : indented 1 s!"{s.name}: {s.content.declaration}" =
      "    " ++ (s.name ++ (": " ++ s.content.declaration)) := by
    simp [← String.toList_inj, indented, toString]
  rw [hline]
  exact read?_eq_some _ hs rfl (by decide)

theorem assigned?_default {s : Slot} (hs : ∀ c ∈ s.name.toList, isPathChar c = true) :
    assigned? "mirror" (indented 2 s!"mirror.{s.name} = {s.content.default}") =
      some (s.name, s.content.default) := by
  have hline : indented 2 s!"mirror.{s.name} = {s.content.default}" =
      "        mirror." ++ (s.name ++ (" = " ++ s.content.default)) := by
    simp [← String.toList_inj, indented, toString]
  rw [hline]
  exact read?_eq_some _ hs rfl (by decide)

end StructModel

end StructForge.Struct

import Mathlib.Data.List.ProdSigma
import StructForge.Proofs.Batch.Drafting
import StructForge.Proofs.Struct.ImportUse
import StructForge.Proofs.Struct.Paragraphs
import StructForge.Struct.Pairing

/-! # Reading a module back

A module's text says everything about the model that it was written from. A reader finds the parts
of the model in the paragraphs of the text: the names of the struct and of its source, the imports,
and for each slot the one content that is declared, filled and zeroed as the text does it. Which
names are imported from the container library follows from the slots. -/

namespace StructForge.Struct

open Schema

/-! ## What the slots say about the library -/

def Copy.library : Copy → List RuntimeName
  | .same => []
  | .vector3 => [.float3]
  | .vector2 => [.float2]

def KeyCopy.library : KeyCopy → List RuntimeName
  | .widen => []
  | .copy how => how.library

def Content.library : Content → List RuntimeName
  | .array _ copy => [.allocator, .array] ++ copy.library
  | .map _ _ keyCopy valueCopy => [.allocator, .map] ++ (keyCopy.library ++ valueCopy.library)
  | .vector3 => [.float3]
  | .vector2 => [.float2]
  | .scalar .. => []

/-- The names of the container library that slots call for, sorted and without repetition. -/
def slotLibrary (slots : List Slot) : List RuntimeName :=
  RuntimeName.all.filter (slots.flatMap (·.content.library)).contains

/-! ## The reader -/

def Copy.all : List Copy := [.same, .vector2, .vector3]

def KeyCopy.all : List KeyCopy := .widen :: Copy.all.map .copy

def Zero.all : List Zero := .firstMember :: .construct :: builtinZeros.map .literal

def Content.declared (declaration : String) : List Content :=
  let arrays := (enclosed? "NativeArray[" "]" declaration).toList.flatMap fun element =>
    Copy.all.map (Content.array element)
  let maps := ((enclosed? "NativeHashMap[" "]" declaration).bind (read? "" ", ")).toList.flatMap
    fun types => KeyCopy.all.flatMap fun keyCopy =>
      Copy.all.map (Content.map types.1 types.2 keyCopy)
  arrays ++ maps ++ [.vector3, .vector2] ++ Zero.all.map (Content.scalar declaration)

/-- The slot with a name, a declared type, the lines that fill it, and a default. -/
def Slot.ofTexts? (name declaration : String) (conversion : List String) (initial : String) :
    Option Slot := do
  let content ← (Content.declared declaration).find? fun c =>
    Slot.conversion ⟨name, c⟩ == conversion && c.default == initial
  return ⟨name, content⟩

def ImportLine.ofText? (line : String) : Option ImportLine := do
  let (module, names) ← read? "from " " import" line
  return ⟨module, (names.toList.splitOn ',').map fun cs =>
    Binding.ofText module (String.ofList (cs.drop 1))⟩

namespace StructModel

def ofStruct? (sourcePath : String) (needsNumpy : Bool) : List (List String) → Option StructModel
  | imports :: _ :: [head, _] :: _ :: annotations :: (constructor :: first) :: rest => do
    let typeName ← enclosed? "class " ":" head
    let sourceExpr ← enclosed? "    def __init__(self, instance: " ") -> None:" constructor
    let declared ← annotations.mapM annotated?
    -- the first slot is filled in the paragraph with the head of the constructor
    let (others, methods) := rest.splitAt (declared.length - 1)
    let initials ← ((methods.headD []).drop 4).dropLast.mapM (assigned? "mirror")
    let slots ← (declared.zip ((first :: others).zip initials)).mapM fun p =>
      Slot.ofTexts? p.1.1 p.1.2 p.2.1 p.2.2.2
    -- the library may hold types of its own, so its line is told from theirs by the slots only
    let runtimeImports := slotLibrary slots
    let imports ← (if runtimeImports.isEmpty then imports else imports.tail).mapM
      ImportLine.ofText?
    return ⟨typeName, sourcePath, sourceExpr, runtimeImports, imports, needsNumpy, slots⟩
  | _ => none

def ofParagraphs? : List (List String) → Option StructModel
  | [header, _] :: _ :: rest => do
    let sourcePath ← enclosed? "# Generated by nativegen from " ". Do not edit." header
    if rest.head? == some ["import numpy as np"] then ofStruct? sourcePath true rest.tail
    else ofStruct? sourcePath false rest
  | _ => none

def ofText? (text : String) : Option StructModel := ofParagraphs? (Struct.paragraphs text)

end StructModel

/-! ## Reading slots -/

section Slots

variable {c c' : Content} {copy copy' : Copy} {keyCopy keyCopy' : KeyCopy} {zero zero' : Zero}
  {name e type declaration : String}

theorem Copy.mem_all (copy : Copy) : copy ∈ Copy.all := by cases copy <;> decide

theorem KeyCopy.mem_all (keyCopy : KeyCopy) : keyCopy ∈ KeyCopy.all := by
  cases keyCopy with
  | widen => decide
  | copy how => exact List.mem_cons_of_mem _ (List.mem_map_of_mem how.mem_all)

theorem mem_declared : c ∈ Content.declared declaration ↔
    (∃ element copy, enclosed? "NativeArray[" "]" declaration = some element ∧
      c = .array element copy) ∨
    (∃ key value keyCopy valueCopy,
      (enclosed? "NativeHashMap[" "]" declaration).bind (read? "" ", ") = some (key, value) ∧
      c = .map key value keyCopy valueCopy) ∨
    c = .vector3 ∨ c = .vector2 ∨ ∃ zero ∈ Zero.all, c = .scalar declaration zero := by
  unfold Content.declared
  simp only [List.mem_append, List.mem_flatMap, List.mem_map, Option.mem_toList, List.mem_cons,
    List.not_mem_nil, or_false, Prod.exists, Copy.mem_all, KeyCopy.mem_all, true_and, or_assoc]
  simp only [eq_comm, exists_and_left]

/-- An element is taken over in different ways by expressions of different lengths. -/
theorem Copy.text_injective (h : copy.text e = copy'.text e) : copy = copy' := by
  have hlength := congrArg (fun text : String => text.toList.length) h
  cases copy <;> cases copy'
  case same.same => rfl
  case vector2.vector2 => rfl
  case vector3.vector3 => rfl
  all_goals
    simp only [Copy.text, toString, String.toList_append, List.length_append] at hlength
    simp at hlength
    omega

def entryText (p : KeyCopy × Copy) : String := p.1.text ++ (", " ++ (p.2.text "value" ++ ")"))

/-- The expressions for an entry tell how its key and its value are taken over. -/
theorem entryText_injective {p q : KeyCopy × Copy} (h : entryText p = entryText q) : p = q := by
  have hnodup : ((KeyCopy.all ×ˢ Copy.all).map entryText).Nodup := by decide
  have hmem (p : KeyCopy × Copy) : p ∈ KeyCopy.all ×ˢ Copy.all :=
    List.mem_product.mpr ⟨p.1.mem_all, p.2.mem_all⟩
  exact List.inj_on_of_nodup_map hnodup (hmem p) (hmem q) h

theorem default_injective (hzero : zero ∈ Zero.all) (hzero' : zero' ∈ Zero.all)
    (h : (Content.scalar type zero).default = (Content.scalar type zero').default) :
    zero = zero' := by
  have hfirst : (Content.scalar type .firstMember).default = "next(iter(" ++ type ++ "))" := rfl
  have hconstruct : (Content.scalar type .construct).default = type ++ "(0)" := rfl
  have hliterals : (builtinZeros.map .literal).map (fun z => (Content.scalar type z).default) =
      builtinZeros := List.map_map.trans (List.map_id _)
  -- no literal is a call, and the two calls are of different lengths
  have hparen : ∀ text ∈ builtinZeros, ')' ∉ text.toList := by decide
  have hlength : "next(iter(" ++ type ++ "))" ≠ type ++ "(0)" := by
    intro h
    have hlength := congrArg (fun text : String => text.toList.length) h
    simp at hlength
    omega
  have hnodup : (Zero.all.map fun z => (Content.scalar type z).default).Nodup := by
    rw [Zero.all, List.map_cons, List.map_cons, hliterals, hfirst, hconstruct, List.nodup_cons,
      List.nodup_cons, List.mem_cons, not_or]
    exact ⟨⟨hlength, fun hmem => hparen _ hmem (by simp)⟩, fun hmem => hparen _ hmem (by simp),
      by decide⟩
  exact List.inj_on_of_nodup_map hnodup hzero hzero' h

theorem enclosed?_array :
    enclosed? "NativeArray[" "]" (Content.array e copy).declaration = some e := by
  rw [Content.declaration_array, enclosed?_eq_some]

theorem enclosed?_map {key value : String} (hkey : IsPath key) :
    (enclosed? "NativeHashMap[" "]" (Content.map key value keyCopy copy).declaration).bind
      (read? "" ", ") = some (key, value) := by
  have htypes : key ++ ", " ++ value = "" ++ (key ++ (", " ++ value)) := by
    rw [String.append_assoc, String.empty_append]
  rw [Content.declaration_map, enclosed?_eq_some, Option.bind_some, htypes]
  exact read?_eq_some "" hkey rfl (by decide)

theorem zero_mem_all (h : (Content.scalar type zero).HasBuiltinZero) : zero ∈ Zero.all := by
  cases zero with
  | literal text =>
    exact List.mem_cons_of_mem _ (List.mem_cons_of_mem _ (List.mem_map_of_mem (h type text rfl)))
  | firstMember => decide
  | construct => decide

theorem mem_declared_self (hreadable : c.isReadable = true) (hzero : c.HasBuiltinZero) :
    c ∈ Content.declared c.declaration := by
  rw [mem_declared]
  cases c with
  | array element copy => exact .inl ⟨element, copy, enclosed?_array, rfl⟩
  | map key value keyCopy valueCopy =>
    have hkey := isPath_of_isDottedName (Bool.and_eq_true_iff.mp hreadable).1
    exact .inr (.inl ⟨key, value, keyCopy, valueCopy, enclosed?_map hkey, rfl⟩)
  | vector3 => exact .inr (.inr (.inl rfl))
  | vector2 => exact .inr (.inr (.inr (.inl rfl)))
  | scalar type zero => exact .inr (.inr (.inr (.inr ⟨zero, zero_mem_all hzero, rfl⟩)))

/-- Of the contents with a declared type one only is filled by given lines and has a given
default. -/
theorem eq_of_mem_declared (hreadable : c.isReadable = true) (hzero : c.HasBuiltinZero)
    (hmem : c' ∈ Content.declared c.declaration)
    (hconversion : Slot.conversion ⟨name, c'⟩ = Slot.conversion ⟨name, c⟩)
    (hdefault : c'.default = c.default) : c' = c := by
  rcases mem_declared.mp hmem with ⟨element', copy', helement, rfl⟩ |
    ⟨key', value', keyCopy', valueCopy', htypes, rfl⟩ | rfl | rfl | ⟨zero', hzero', rfl⟩
  · cases c with
    | array element copy =>
      rw [enclosed?_array, Option.some.injEq] at helement
      subst helement
      have hitem : copy'.text ("instance." ++ name ++ "[i]") =
          copy.text ("instance." ++ name ++ "[i]") := by
        simpa [Slot.conversion, indented] using hconversion
      rw [Copy.text_injective hitem]
    | map key value keyCopy valueCopy =>
      simp [Slot.conversion, indented, toString, ← String.toList_inj] at hconversion
    | _ => simp [Slot.conversion] at hconversion
  · cases c with
    | array element copy =>
      simp [Slot.conversion, indented, toString, ← String.toList_inj] at hconversion
    | map key value keyCopy valueCopy =>
      have hkey := isPath_of_isDottedName (Bool.and_eq_true_iff.mp hreadable).1
      rw [enclosed?_map hkey, Option.some.injEq, Prod.mk.injEq] at htypes
      obtain ⟨rfl, rfl⟩ := htypes
      have hentry : entryText (keyCopy', valueCopy') = entryText (keyCopy, valueCopy) := by
        simpa [entryText, Slot.conversion, indented, toString, String.append_assoc] using
          hconversion
      obtain ⟨rfl, rfl⟩ := Prod.mk.inj (entryText_injective hentry)
      rfl
    | _ => simp [Slot.conversion] at hconversion
  · cases c with
    | vector3 => rfl
    | vector2 | scalar =>
      simp [Slot.conversion, indented, Copy.text, toString, ← String.toList_inj] at hconversion
    | array | map => simp [Slot.conversion] at hconversion
  · cases c with
    | vector2 => rfl
    | vector3 | scalar =>
      simp [Slot.conversion, indented, Copy.text, toString, ← String.toList_inj] at hconversion
    | array | map => simp [Slot.conversion] at hconversion
  · cases c with
    | scalar type zero =>
      rw [default_injective hzero' (zero_mem_all hzero) hdefault]
      rfl
    | vector3 | vector2 =>
      simp [Slot.conversion, indented, Copy.text, toString, ← String.toList_inj] at hconversion
    | array | map => simp [Slot.conversion] at hconversion

theorem Slot.ofTexts?_eq {s : Slot} (hreadable : s.content.isReadable = true)
    (hzero : s.content.HasBuiltinZero) :
    Slot.ofTexts? s.name s.content.declaration s.conversion s.content.default = some s := by
  have hfind : (Content.declared s.content.declaration).find? (fun c =>
      Slot.conversion ⟨s.name, c⟩ == s.conversion && c.default == s.content.default) =
        some s.content := by
    cases hfound : (Content.declared s.content.declaration).find? (fun c =>
        Slot.conversion ⟨s.name, c⟩ == s.conversion && c.default == s.content.default) with
    | none =>
      have hnone := List.find?_eq_none.mp hfound s.content (mem_declared_self hreadable hzero)
      simp at hnone
    | some c =>
      have hc := List.find?_some hfound
      rw [Bool.and_eq_true, beq_iff_eq, beq_iff_eq] at hc
      rw [eq_of_mem_declared hreadable hzero (List.mem_of_find?_eq_some hfound) hc.1 hc.2]
  unfold Slot.ofTexts?
  simp only [hfind]
  rfl

end Slots

/-! ## Reading imports -/

section Lines

theorem mapM_map_eq_some {α β γ : Type} {f : β → Option γ} {g : α → β} {h : α → γ} {xs : List α}
    (hread : ∀ x ∈ xs, f (g x) = some (h x)) : (xs.map g).mapM f = some (xs.map h) := by
  induction xs with
  | nil => rfl
  | cons x xs ih =>
    rw [List.forall_mem_cons] at hread
    rw [List.map_cons, List.mapM_cons, hread.1, ih hread.2]
    rfl

theorem toList_blank_intercalate {names : List String} (h : names ≠ []) :
    (" " ++ ", ".intercalate names).toList =
      [','].intercalate (names.map fun name => ' ' :: name.toList) := by
  induction names with
  | nil => exact absurd rfl h
  | cons name rest ih =>
    cases rest with
    | nil => simp
    | cons name' rest =>
      have ih := ih (List.cons_ne_nil _ _)
      simp only [String.toList_append, String.toList_intercalate] at ih ⊢
      simp only [List.map_cons, List.intercalate_cons_cons] at ih ⊢
      simp at ih ⊢
      rw [ih]

theorem comma_not_mem_text {b : Binding} (h : IsPath b.name ∧ IsPath b.localName) :
    ',' ∉ b.text.toList := by
  have hcomma : isPathChar ',' = false := by decide
  have hpath {name : String} (h : IsPath name) : ',' ∉ name.toList := fun hmem => by
    rw [h _ hmem] at hcomma
    cases hcomma
  unfold Binding.text
  split
  · exact hpath h.1
  · simp [toString, hpath h.1, hpath h.2]

theorem ImportLine.ofText?_eq {line : ImportLine} (hmodule : IsPath line.module)
    (hnames : ∀ b ∈ line.names, IsPath b.name ∧ IsPath b.localName) (hne : line.names ≠ [])
    (hline : ∀ b ∈ line.names, b.module = line.module) :
    ImportLine.ofText? (importText line.module (line.names.map (·.text))) = some line := by
  have htext : importText line.module (line.names.map (·.text)) = "from " ++ (line.module ++
      (" import" ++ (" " ++ ", ".intercalate (line.names.map (·.text))))) := by
    simp [importText, toString, ← String.toList_inj]
  have hblank : isPathChar ' ' = false := by decide
  have hpieces : (" " ++ ", ".intercalate (line.names.map (·.text))).toList.splitOn ',' =
      (line.names.map (·.text)).map fun name => ' ' :: name.toList := by
    rw [toList_blank_intercalate (by simpa using hne)]
    refine List.splitOn_intercalate ',' ?_ (by simpa using hne)
    rw [List.forall_mem_map, List.forall_mem_map]
    intro b hb
    simpa using comma_not_mem_text (hnames b hb)
  unfold ImportLine.ofText?
  rw [htext, read?_eq_some "from " hmodule rfl hblank]
  simp only [Option.bind_eq_bind, Option.bind_some, hpieces, List.map_map]
  refine congrArg some (congrArg (ImportLine.mk line.module) ?_)
  refine (List.map_congr_left fun b hb => ?_).trans (List.map_id _)
  have hname : ' ' ∉ b.name.toList := fun hmem => by
    rw [(hnames b hb).1 _ hmem] at hblank
    cases hblank
  simp only [Function.comp_apply, List.drop_one, List.tail_cons, String.ofList_toList, ← hline b hb]
  exact Binding.ofText_text hname

end Lines

/-! ## Reading models -/

namespace StructModel

/-- Whether a model can be read from its text: it has slots, its places are spelled as they should
be, its lines import something from their modules, and the library's names are those that its slots
call for. -/
structure IsLegible (m : StructModel) : Prop extends m.IsSpelled where
  slots : m.slots ≠ []
  runtimeImports : m.runtimeImports = slotLibrary m.slots
  imports : ∀ line ∈ m.imports, line.names ≠ [] ∧ ∀ b ∈ line.names, b.module = line.module

section Reading

variable {m : StructModel}

theorem read_annotationLines (h : m.IsSpelled) : m.annotationLines.mapM annotated? =
    some (m.slots.map fun s => (s.name, s.content.declaration)) :=
  mapM_map_eq_some fun _ hs => annotated?_declaration (isPath_slot h.readable hs).1

theorem read_defaultLines (h : m.IsSpelled) : m.defaultLines.mapM (assigned? "mirror") =
    some (m.slots.map fun s => (s.name, s.content.default)) :=
  mapM_map_eq_some fun _ hs => assigned?_default (isPath_slot h.readable hs).1

theorem read_fromLines (h : m.IsLegible) :
    (if m.runtimeImports.isEmpty then m.fromLines else m.fromLines.tail).mapM
      ImportLine.ofText? = some m.imports := by
  have hlines : (if m.runtimeImports.isEmpty then m.fromLines else m.fromLines.tail) =
      m.imports.map fun line => importText line.module (line.names.map (·.text)) := by
    unfold fromLines
    cases m.runtimeImports <;> rfl
  rw [hlines, mapM_map_eq_some (h := id), List.map_id]
  intro line hline
  obtain ⟨hmodule, hnames⟩ := isPath_import h.readable hline
  exact ImportLine.ofText?_eq hmodule hnames (h.imports line hline).1 (h.imports line hline).2

theorem numeric_not_mem_fromLines (m : StructModel) : "import numpy as np" ∉ m.fromLines := by
  have hne (module : String) (names : List String) :
      importText module names ≠ "import numpy as np" := by
    simp [importText, toString, ← String.toList_inj]
  unfold fromLines
  rw [List.mem_append, not_or]
  constructor
  · split
    · exact List.not_mem_nil
    · exact fun hmem => hne _ _ (List.mem_singleton.mp hmem).symm
  · intro hmem
    obtain ⟨line, -, hline⟩ := List.mem_map.mp hmem
    exact hne _ _ hline

theorem read_slots (h : m.IsSpelled) :
    ((m.slots.map fun s => (s.name, s.content.declaration)).zip
      ((m.slots.map (·.conversion)).zip (m.slots.map fun s => (s.name, s.content.default)))).mapM
        (fun p => Slot.ofTexts? p.1.1 p.1.2 p.2.1 p.2.2.2) = some m.slots := by
  rw [List.zip_map', List.zip_map', mapM_map_eq_some (h := id), List.map_id]
  exact fun s hs => Slot.ofTexts?_eq (isPath_slot h.readable hs).2 (h.zeros s hs)

theorem ofStruct?_eq (h : m.IsLegible) :
    ofStruct? m.sourcePath m.needsNumpy
      (m.fromLines :: [] ::
        [s!"class {m.typeName}:",
          indented 1 s!"\"\"\"Native mirror of ``{m.sourcePath}``.\"\"\""] ::
        [indented 1 s!"__slots__ = {m.slotsText}"] ::
        m.annotationLines :: (m.constructorParagraphs ++ m.methodParagraphs)) = some m := by
  obtain ⟨s, rest, hslots⟩ := List.exists_cons_of_ne_nil h.slots
  have hclass : enclosed? "class " ":" s!"class {m.typeName}:" = some m.typeName := by
    have hline : s!"class {m.typeName}:" = "class " ++ (m.typeName ++ ":") := String.append_assoc
    rw [hline, enclosed?_eq_some]
  have hsource : enclosed? "    def __init__(self, instance: " ") -> None:" m.constructorHead =
      some m.sourceExpr := by
    have hline : m.constructorHead =
        "    def __init__(self, instance: " ++ (m.sourceExpr ++ ") -> None:") := by
      simp [constructorHead, ← String.toList_inj, indented, toString]
    rw [hline, enclosed?_eq_some]
  have hconstructor : m.constructorParagraphs =
      (m.constructorHead :: s.conversion) :: rest.map (·.conversion) := by
    unfold constructorParagraphs
    rw [hslots]
  have hconversions : s.conversion :: rest.map (·.conversion) = m.slots.map (·.conversion) := by
    rw [hslots, List.map_cons]
  have hsplit : (rest.map (·.conversion) ++ m.methodParagraphs).splitAt (m.slots.length - 1) =
      (rest.map (·.conversion), m.methodParagraphs) := by
    rw [hslots]
    simp
  have hinitials : ((m.methodParagraphs.headD []).drop 4).dropLast = m.defaultLines := by
    simp [methodParagraphs]
  unfold ofStruct?
  simp only [hconstructor, List.cons_append, hclass, hsource, read_annotationLines h.toIsSpelled,
    List.length_map, hsplit, hinitials, read_defaultLines h.toIsSpelled, hconversions,
    read_slots h.toIsSpelled, read_fromLines h, ← h.runtimeImports, Option.bind_eq_bind,
    Option.bind_some]
  rfl

theorem ofText?_text (h : m.IsLegible) : ofText? m.text = some m := by
  have hheader : enclosed? "# Generated by nativegen from " ". Do not edit."
      s!"# Generated by nativegen from {m.sourcePath}. Do not edit." = some m.sourcePath := by
    have hline : s!"# Generated by nativegen from {m.sourcePath}. Do not edit." =
        "# Generated by nativegen from " ++ (m.sourcePath ++ ". Do not edit.") :=
      String.append_assoc
    rw [hline, enclosed?_eq_some]
  have hstruct := ofStruct?_eq h
  unfold ofText?
  rw [h.paragraphs_text]
  unfold paragraphs headParagraphs ofParagraphs?
  cases hnumpy : m.needsNumpy with
  | true =>
    rw [hnumpy] at hstruct
    simpa [hheader] using hstruct
  | false =>
    rw [hnumpy] at hstruct
    have hfrom : m.fromLines ≠ ["import numpy as np"] := fun heq =>
      m.numeric_not_mem_fromLines (heq ▸ List.mem_singleton_self _)
    simpa [hheader, hfrom] using hstruct

end Reading

/-! ## Models that are emitted -/

section Emitted

variable {m : StructModel} {t t' : Target} {fields fields' : List Descriptor} {i : Imports}
  {d : Descriptor} {c : Content} {text : String}

theorem library_ofType (r : TypeRef) : (Copy.ofType r).library = elementLibrary r := by
  unfold Copy.ofType elementLibrary
  cases r.shape <;> rfl

theorem library_of_contentOf (h : ContentOf i d c) : c.library = fieldLibrary d := by
  unfold fieldLibrary
  cases h with
  | sequence hcategory hargs => simp [hcategory, hargs, Content.library, library_ofType]
  | widened hcategory hargs _ _ hkey =>
    simp [hcategory, hargs, hkey, Content.library, KeyCopy.library, library_ofType]
  | mapping hcategory hargs _ _ hkey =>
    simp [hcategory, hargs, hkey, Content.library, KeyCopy.library, library_ofType]
  | vector3 hcategory | vector2 hcategory | scalar hcategory => simp [hcategory, Content.library]

theorem runtimeImports_eq_slotLibrary (h : StructModel.build t fields = .ok m) :
    m.runtimeImports = slotLibrary m.slots := by
  obtain ⟨i, hbuilt, hgrows⟩ := build_grows h
  have hlibrary : fields.map fieldLibrary = m.slots.map (·.content.library) := by
    rw [← List.forall₂_eq_eq_eq, List.forall₂_map_left_iff, List.forall₂_map_right_iff]
    exact hbuilt.slots.imp fun _ _ hslot => (library_of_contentOf hslot.content).symm
  rw [hbuilt.runtimeImports, Imports.runtimeNames, hgrows.runtime, List.nil_append,
    List.flatMap_def, hlibrary]
  rfl

theorem exists_line_of_mem (hbuilt : m.BuiltFrom t fields i)
    (hroots : (i.bindings.map (·.root)).Nodup) {b : Binding} (hb : b ∈ i.bindings) :
    ∃ line ∈ m.imports, b ∈ line.names ∧ line.module = b.module := by
  obtain ⟨line, hline, hmem⟩ := List.mem_flatMap.mp (Imports.mem_lines.mpr hb)
  refine ⟨line, hbuilt.imports ▸ hline, hmem, ?_⟩
  exact ((Imports.names_of_mem_lines hroots hline).2 b hmem).symm

theorem isPath_of_denotes (hbuilt : m.BuiltFrom t fields i)
    (hroots : (i.bindings.map (·.root)).Nodup) (hreadable : m.isReadable = true) {r : Reference}
    {e : String} (hdenotes : i.Denotes r e) (he : IsPath e) : IsPath r.1 ∧ IsPath r.2 := by
  obtain ⟨hmodule, rfl⟩ | ⟨hmodule, rfl, -⟩ | ⟨-, b, hb, hmodule, hname, rfl⟩ := hdenotes
  · rw [hmodule]
    exact ⟨isPath_of_all (by decide), he⟩
  · rw [hmodule]
    refine ⟨isPath_of_all (by decide), fun c hc => he c ?_⟩
    rw [String.toList_append]
    exact List.mem_append_right _ hc
  · obtain ⟨line, hline, hmem, hlineModule⟩ := exists_line_of_mem hbuilt hroots hb
    obtain ⟨hpath, hnames⟩ := isPath_import hreadable hline
    refine ⟨by rwa [← hmodule, ← hlineModule], fun c hc => ?_⟩
    rw [← splitHead_append_self r.2, String.toList_append, List.mem_append, ← hname] at hc
    rcases hc with hc | hc
    · exact (hnames b hmem).1 c hc
    · refine he c ?_
      rw [String.toList_append]
      exact List.mem_append_right _ hc

theorem isPath_sourcePath (h : StructModel.build t fields = .ok m)
    (hreadable : m.isReadable = true) : IsPath m.sourcePath := by
  have hpath : m.sourcePath = t.sourcePath := by
    obtain ⟨_, -, hpure⟩ := bind_eq_ok.mp h
    cases hpure
    rfl
  obtain ⟨i, hbuilt, hgrows⟩ := build_grows h
  obtain ⟨hmodule, hqualname⟩ := isPath_of_denotes hbuilt (hgrows.roots List.nodup_nil) hreadable
    hbuilt.sourceExpr (isPath_of_isReadable hreadable).2
  intro c hc
  have hc : c ∈ t.sourceModule.toList ∨ c = '.' ∨ c ∈ t.sourceQualname.toList := by
    simpa [hpath, Target.sourcePath, toString] using hc
  rcases hc with hc | rfl | hc
  · exact hmodule c hc
  · rfl
  · exact hqualname c hc

theorem names_ne_nil_of_mem_lines {line : ImportLine} (h : line ∈ i.lines) : line.names ≠ [] := by
  obtain ⟨module, hmodule, rfl⟩ := List.mem_map.mp h
  rw [mem_sortByText, List.mem_eraseDups] at hmodule
  obtain ⟨b, hb, rfl⟩ := List.mem_map.mp hmodule
  exact List.ne_nil_of_mem
    (mem_sortByText.mpr (List.mem_filter.mpr ⟨hb, beq_self_eq_true b.module⟩))

theorem mem_builtinZeros_of_zeroOf {r : TypeRef} (h : zeroOf r = .ok (.literal text)) :
    text ∈ builtinZeros := by
  unfold zeroOf at h
  split at h
  · cases h
  split at h
  · split at h
    · rename_i hzero
      cases h
      unfold builtinZero? at hzero
      split at hzero <;> cases hzero <;> decide
    · cases h
  · cases h

theorem isLegible_of_build (h : StructModel.build t fields = .ok m)
    (hreadable : m.isReadable = true) (hfields : fields.isEmpty = false) : m.IsLegible := by
  obtain ⟨i, hbuilt, hgrows⟩ := build_grows h
  have hroots : (i.bindings.map (·.root)).Nodup := hgrows.roots List.nodup_nil
  refine ⟨⟨hreadable, isPath_sourcePath h hreadable, ?_⟩, ?_, runtimeImports_eq_slotLibrary h, ?_⟩
  · intro s hs type text hcontent
    obtain ⟨d, hpair⟩ := exists_mem_zip_right hbuilt.slots hs
    have hslot := (List.forall₂_zip hbuilt.slots hpair).content
    rw [hcontent] at hslot
    cases hslot with
    | scalar _ _ hzero => exact mem_builtinZeros_of_zeroOf hzero
  · intro hslots
    have hlength := hbuilt.slots.length_eq
    rw [hslots, List.length_nil, List.length_eq_zero_iff] at hlength
    rw [hlength] at hfields
    cases hfields
  · intro line hline
    rw [hbuilt.imports] at hline
    exact ⟨names_ne_nil_of_mem_lines hline, (Imports.names_of_mem_lines hroots hline).2⟩

theorem exists_build_of_emit_standard
    (h : emit .standard standardTemplate t fields = .ok (some text)) :
    ∃ m, StructModel.build t fields = .ok m ∧ ofText? text = some m := by
  obtain ⟨hfields, m, hbuild, htext⟩ := exists_build_of_emit h
  have hstandard : Templates.standard.KeepsStandard := rfl
  rw [m.emitText_of_keepsStandard hstandard] at htext
  unfold checkText at htext
  split at htext
  · cases htext
  split at htext
  · rename_i hreadable
    cases htext
    exact ⟨m, hbuild, ofText?_text (isLegible_of_build hbuild hreadable hfields)⟩
  · cases htext

/-- The model that a text is emitted from is read back from it. Whether names are spelled as they
should be has been checked when there is a text. Two emissions of one text therefore have one
model. -/
theorem readBack_of_emit_eq
    (h : emit .standard standardTemplate t fields = .ok (some text))
    (h' : emit .standard standardTemplate t' fields' = .ok (some text)) :
    ∃ m, StructModel.build t fields = .ok m ∧ StructModel.build t' fields' = .ok m ∧
      ofText? text = some m := by
  obtain ⟨m, hbuild, hm⟩ := exists_build_of_emit_standard h
  obtain ⟨m', hbuild', hm'⟩ := exists_build_of_emit_standard h'
  rw [hm, Option.some.injEq] at hm'
  exact ⟨m, hbuild, hm' ▸ hbuild', hm⟩

/-- The squad, written to two files, is read back as one model. -/
theorem readBack_squad :
    ∃ text m, emit .standard standardTemplate (unitTarget "Squad") squadSource.extract.fields =
        .ok (some text) ∧
      emit .standard standardTemplate { unitTarget "Squad" with fileName := "squad.py" }
        squadSource.extract.fields = .ok (some text) ∧
      StructModel.build (unitTarget "Squad") squadSource.extract.fields = .ok m ∧
      ofText? text = some m := by
  obtain ⟨m, hbuild, hreadable⟩ := exists_of_any
    (x := StructModel.build (unitTarget "Squad") squadSource.extract.fields)
    (p := fun m => m.isReadable = true) (by decide +kernel)
  have hemit (fileName : String) (hnull : '\x00' ∉ fileName.toList) :
      emit .standard standardTemplate { unitTarget "Squad" with fileName }
        squadSource.extract.fields = .ok (some m.text) := by
    have hbuild' : StructModel.build { unitTarget "Squad" with fileName }
      squadSource.extract.fields = .ok m := hbuild
    have hfields : squadSource.extract.fields.isEmpty = false := by decide
    have hstandard : Templates.standard.KeepsStandard := rfl
    unfold emit
    simp [hfields, hbuild', m.emitText_of_keepsStandard hstandard, checkText, hreadable, hnull]
  have hfirst := hemit "NativeSquad.py" (by decide)
  have hsecond := hemit "squad.py" (by decide)
  obtain ⟨m', hm, -, hread⟩ := readBack_of_emit_eq hfirst hsecond
  exact ⟨m.text, m', hfirst, hsecond, hm, hread⟩

end Emitted

end StructModel

/-! ## Structs that a text declares -/

namespace Pairing

open Live

/-- The pairing of a class with the struct that a text declares, if it declares one. -/
def ofText (r : Registry) (c : ClassRef) (text : String) : Except Fault (Option Pairing) :=
  match StructModel.ofText? text with
  | some m => do return some { model := m, scope := ← Scope.load r m, source := c }
  | none => return none

/-- A class is paired with the struct that its emitted text declares. So what is made of a source
object, or by default, is what the text says. -/
theorem start_eq_ofText {r : Registry} {n : Naming} {c : ClassRef} {t : Target}
    {fields : List Descriptor} {text : String}
    (hfields : Pairing.fields r n (.hint (.cls c)) = .ok (t, fields))
    (hemit : emit .standard standardTemplate t fields = .ok (some text)) :
    Pairing.start r n (.hint (.cls c)) = ofText r c text := by
  obtain ⟨m, hbuild, hread⟩ := StructModel.exists_build_of_emit_standard hemit
  unfold start ofText
  simp only [hfields, ok_bind, hemit, Except.mapError, hbuild, hread]

end Pairing

end StructForge.Struct

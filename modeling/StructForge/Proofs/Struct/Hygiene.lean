import StructForge.Proofs.Struct.Building

/-! # Names of a generated module

The names that a generated module imports meet those of the container library, the numeric library,
the struct, the built-in functions and the variables of its methods. Where they are apart, each name
of the constructor and of the default stands for what the builder means by it. -/

namespace StructForge.Struct

open Schema

/-- What a name stands for: a variable of the method, the struct, a name of another module, or a
name of the container library, the numeric library or the language. -/
inductive Meaning where
  | methodVariable
  | struct
  | imported (module name : String)
  | library (n : RuntimeName)
  | numeric
  | builtin (name : String)
  deriving DecidableEq, Repr

/-- Where a name stands: in a signature, whose annotations are read in the module, or in the body of
a method with some variables, which is read in the class. -/
inductive Site where
  | signature
  | body (locals : List String)
  deriving DecidableEq, Repr

def Site.locals : Site → List String
  | .signature => []
  | .body names => names

/-- A name somewhere in a method, and what the builder means by it. -/
structure Use where
  site : Site
  name : String
  meant : Meaning
  deriving DecidableEq, Repr

/-- The built-in names that generated modules use. -/
def usedBuiltins : List String :=
  ["int", "float", "bool", "len", "range", "next", "iter", "object", "classmethod"]

def methodVariables : List String :=
  ["self", "cls", "instance", "mirror", "i", "key", "value", "exc_info"]

def numericName : String := "np"

namespace StructModel

def bindings (m : StructModel) : List Binding := m.imports.flatMap (·.names)

def importedNames (m : StructModel) : List String := m.bindings.map (·.localName)

def libraryNames (m : StructModel) : List String :=
  m.runtimeImports.map (·.text) ++ if m.needsNumpy then [numericName] else []

def reservedNames (m : StructModel) : List String :=
  m.libraryNames ++ m.className :: (usedBuiltins ++ methodVariables)

def boundNames (m : StructModel) : List String := m.importedNames.map Text.normal

def IsApart (m : StructModel) : Prop := ∀ name ∈ m.boundNames, name ∉ m.reservedNames

instance (m : StructModel) : Decidable m.IsApart :=
  inferInstanceAs (Decidable (∀ name ∈ m.boundNames, name ∉ m.reservedNames))

def importedGlobals (m : StructModel) : List (String × Meaning) :=
  (m.bindings.map fun b =>
    (Text.normal b.localName, Meaning.imported (Text.normal b.module) (Text.normal b.name))).reverse

def libraryGlobals (m : StructModel) : List (String × Meaning) :=
  (m.runtimeImports.map fun n => (n.text, .library n)).reverse ++
    if m.needsNumpy then [(numericName, .numeric)] else []

/-- The bindings of the module once it is loaded, the latest first. -/
def globals (m : StructModel) : List (String × Meaning) :=
  (m.className, .struct) :: (m.importedGlobals ++ m.libraryGlobals)

def readAt (m : StructModel) : Site → String → String
  | .signature, name => Text.normal name
  | .body _, name => m.read name

def meaning (m : StructModel) (site : Site) (name : String) : Meaning :=
  let name := m.readAt site name
  if name ∈ site.locals then .methodVariable else (m.globals.lookup name).getD (.builtin name)

end StructModel

/-- What is meant by the first name of an expression for a type. -/
def referenceMeaning (r : Reference) : Meaning :=
  if r.1 = "builtins" then .builtin (splitHead r.2).1
  else if r.1 = "numpy" then .numeric
  else .imported r.1 (splitHead r.2).1

/-- What is meant by the first name of the element type of a container. -/
def elementMeaning (r : TypeRef) : Meaning :=
  match r.shape with
  | .vector3 => .library .float3
  | .vector2 => .library .float2
  | _ => referenceMeaning (r.module, r.qualname)

def Copy.uses : Copy → List (String × Meaning)
  | .same => []
  | .vector3 => [("float3", .library .float3)]
  | .vector2 => [("float2", .library .float2)]

def KeyCopy.uses : KeyCopy → List (String × Meaning)
  | .widen => [("int", .builtin "int")]
  | .copy how => how.uses

def typeUses (d : Descriptor) (c : Content) : List (String × Meaning) :=
  match c, d.type.args with
  | .array e _, element :: _ => [((splitHead e).1, elementMeaning element)]
  | .map e e' _ _, [key, value] =>
    [((splitHead e).1, if key.isEnum then .builtin enumKeyName else elementMeaning key),
      ((splitHead e').1, elementMeaning value)]
  | .scalar e _, _ => [((splitHead e).1, referenceMeaning (d.type.module, d.type.qualname))]
  | _, _ => []

def fillUses (d : Descriptor) (c : Content) : List (String × Meaning) :=
  [("self", .methodVariable), ("instance", .methodVariable)] ++
    match c with
    | .array _ copy =>
      [("NativeArray", .library .array), ("Allocator", .library .allocator),
        ("len", .builtin "len"), ("range", .builtin "range"), ("i", .methodVariable)] ++
        (typeUses d c ++ copy.uses)
    | .map _ _ keyCopy valueCopy =>
      [("NativeHashMap", .library .map), ("Allocator", .library .allocator),
        ("len", .builtin "len"), ("key", .methodVariable), ("value", .methodVariable)] ++
        (typeUses d c ++ (keyCopy.uses ++ valueCopy.uses))
    | .vector3 => Copy.vector3.uses
    | .vector2 => Copy.vector2.uses
    | .scalar .. => []

def defaultUses (d : Descriptor) (c : Content) : List (String × Meaning) :=
  ("mirror", .methodVariable) ::
    match c with
    | .array .. => ("NativeArray", .library .array) :: typeUses d c
    | .map .. => ("NativeHashMap", .library .map) :: typeUses d c
    | .vector3 => Copy.vector3.uses
    | .vector2 => Copy.vector2.uses
    | .scalar _ (.literal _) => []
    | .scalar _ .firstMember =>
      ("next", .builtin "next") :: ("iter", .builtin "iter") :: typeUses d c
    | .scalar _ .construct => typeUses d c

/-- Whether a slot is filled by a loop over indices. -/
def Content.isArray : Content → Bool
  | .array .. => true
  | _ => false

/-- Whether a slot is filled by a loop over entries. -/
def Content.isMap : Content → Bool
  | .map .. => true
  | _ => false

namespace StructModel

/-- The variables of the constructor. Those of a loop are there when a slot needs the loop. -/
def constructorVariables (m : StructModel) : List String :=
  ["self", "instance"] ++
    ((if m.slots.any fun s => s.content.isArray then ["i"] else []) ++
      if m.slots.any fun s => s.content.isMap then ["key", "value"] else [])

def defaultVariables : List String := ["cls", "mirror"]

/-- The names of the constructor and of the default, with their annotations, which are read in the
module. -/
def uses (m : StructModel) (t : Target) (fields : List Descriptor) : List Use :=
  [⟨.signature, (splitHead m.sourceExpr).1, referenceMeaning (t.sourceModule, t.sourceQualname)⟩,
    ⟨.signature, m.typeName, .struct⟩, ⟨.body defaultVariables, "cls", .methodVariable⟩,
    ⟨.body defaultVariables, "mirror", .methodVariable⟩] ++
  (fields.zip m.slots).flatMap fun p =>
    ((fillUses p.1 p.2.content).map fun u => ⟨.body m.constructorVariables, u.1, u.2⟩) ++
      (defaultUses p.1 p.2.content).map fun u => ⟨.body defaultVariables, u.1, u.2⟩

/-- Whether the attributes that the slots are made with are those that are written: the fields, and
the ones on the way to a type. -/
def KeepsSlots (m : StructModel) : Prop :=
  ∀ s ∈ m.slots, m.read s.name = s.name ∧
    ∀ e ∈ s.content.typeTexts, ∀ a ∈ (Text.pieces '.' e).tail, m.read a = a

instance (m : StructModel) : Decidable m.KeepsSlots :=
  inferInstanceAs (Decidable (∀ s ∈ m.slots, _ ∧ ∀ e ∈ s.content.typeTexts, _))

def KeepsAttributes (m : StructModel) : Prop :=
  (∀ a ∈ (Text.pieces '.' m.sourceExpr).tail, Text.normal a = a) ∧ m.KeepsSlots

instance (m : StructModel) : Decidable m.KeepsAttributes :=
  inferInstanceAs (Decidable (_ ∧ m.KeepsSlots))

def Resolves (m : StructModel) (t : Target) (fields : List Descriptor) : Prop :=
  (∀ u ∈ m.uses t fields, m.meaning u.site u.name = u.meant) ∧ m.KeepsAttributes

instance (m : StructModel) (t : Target) (fields : List Descriptor) :
    Decidable (m.Resolves t fields) :=
  inferInstanceAs (Decidable ((∀ u ∈ m.uses t fields, m.meaning u.site u.name = u.meant) ∧ _))

end StructModel

section Support

variable {m : StructModel} {t : Target} {fields : List Descriptor} {i : Imports} {r : Reference}
  {e : String} {site : Site}

/-- Whether the module gives a name the meaning that it is used with, were no other name like it. -/
def IsSupported (m : StructModel) (site : Site) : String × Meaning → Prop
  | (name, .methodVariable) => name ∈ site.locals
  | (name, .struct) => name = m.typeName ∧ site = .signature
  | (name, .imported module head) =>
    ∃ b ∈ m.bindings, b.module = module ∧ b.name = head ∧ b.localName = name
  | (name, .library n) => n ∈ m.runtimeImports ∧ name = n.text
  | (name, .numeric) => m.needsNumpy = true ∧ name = numericName
  | (name, .builtin head) => name = head

theorem StructModel.BuiltFrom.mem_bindings (h : m.BuiltFrom t fields i) {b : Binding} :
    b ∈ m.bindings ↔ b ∈ i.bindings := by
  rw [StructModel.bindings, h.imports]
  exact Imports.mem_lines

theorem StructModel.BuiltFrom.mem_runtimeImports (h : m.BuiltFrom t fields i) {n : RuntimeName} :
    n ∈ m.runtimeImports ↔ n ∈ i.runtime := by
  rw [h.runtimeImports]
  exact Imports.mem_runtimeNames

/-- The first name of an expression is supported as the one for its type. -/
theorem StructModel.BuiltFrom.supports_reference (h : m.BuiltFrom t fields i)
    (hdenotes : i.Denotes r e) : IsSupported m site ((splitHead e).1, referenceMeaning r) := by
  unfold referenceMeaning
  obtain ⟨hmodule, rfl⟩ | ⟨hmodule, rfl, hnumpy⟩ |
    ⟨⟨hbuiltins, hnumpy⟩, b, hb, hmodule, hname, rfl⟩ := hdenotes
  · rw [if_pos hmodule]
    rfl
  · rw [if_neg (by rw [hmodule]; decide), if_pos hmodule]
    refine ⟨h.needsNumpy.trans hnumpy, ?_⟩
    rw [← String.toList_inj, (toList_splitHead _).1, String.toList_append]
    rfl
  · rw [if_neg hbuiltins, if_neg hnumpy, splitHead_append (h.sound.dot_not_mem hb)]
    exact ⟨b, h.mem_bindings.mpr hb, hmodule, hname, rfl⟩

theorem StructModel.BuiltFrom.supports_element (h : m.BuiltFrom t fields i) {element : TypeRef}
    (helement : ElementType i element e) :
    IsSupported m site ((splitHead e).1, elementMeaning element) := by
  unfold elementMeaning
  cases helement with
  | vector3 hshape hbound =>
    rw [hshape]
    exact ⟨h.mem_runtimeImports.mpr hbound, by decide⟩
  | vector2 hshape hbound =>
    rw [hshape]
    exact ⟨h.mem_runtimeImports.mpr hbound, by decide⟩
  | other hshape hdenotes =>
    simp only [TypeRef.isVector, Bool.or_eq_false_iff, beq_eq_false_iff_ne] at hshape
    split
    · exact absurd ‹_› hshape.2
    · exact absurd ‹_› hshape.1
    · exact h.supports_reference hdenotes

/-- A vector element is taken over with the library's vector of its size. -/
theorem StructModel.BuiltFrom.supports_copy (h : m.BuiltFrom t fields i) {element : TypeRef}
    (helement : ElementType i element e) :
    ∀ u ∈ (Copy.ofType element).uses, IsSupported m site u := by
  unfold Copy.ofType
  cases helement with
  | vector3 hshape hbound =>
    rw [hshape]
    simp only [Copy.uses, List.forall_mem_cons]
    exact ⟨⟨h.mem_runtimeImports.mpr hbound, rfl⟩, by simp⟩
  | vector2 hshape hbound =>
    rw [hshape]
    simp only [Copy.uses, List.forall_mem_cons]
    exact ⟨⟨h.mem_runtimeImports.mpr hbound, rfl⟩, by simp⟩
  | other hshape _ =>
    simp only [TypeRef.isVector, Bool.or_eq_false_iff, beq_eq_false_iff_ne] at hshape
    split
    · exact absurd ‹_› hshape.2
    · exact absurd ‹_› hshape.1
    · simp [Copy.uses]

theorem StructModel.BuiltFrom.supports_type (h : m.BuiltFrom t fields i) {d : Descriptor}
    {c : Content} (hc : ContentOf i d c) : ∀ u ∈ typeUses d c, IsSupported m site u := by
  unfold typeUses
  cases hc with
  | sequence _ hargs _ _ helement =>
    rw [hargs]
    simp only [List.forall_mem_singleton]
    exact h.supports_element helement
  | widened _ hargs _ _ hkey hvalue =>
    rw [hargs]
    simp only [hkey, if_true, List.forall_mem_cons]
    exact ⟨(by decide : (splitHead enumKeyName).1 = enumKeyName), h.supports_element hvalue,
      by simp⟩
  | mapping _ hargs _ _ hkey helement hvalue =>
    rw [hargs]
    simp only [hkey, Bool.false_eq_true, if_false, List.forall_mem_cons]
    exact ⟨h.supports_element helement, h.supports_element hvalue, by simp⟩
  | vector3 => simp
  | vector2 => simp
  | scalar _ hdenotes _ =>
    simp only [List.forall_mem_singleton]
    exact h.supports_reference hdenotes

/-- The names that fill a slot are supported in a method with the variables of its loop. -/
theorem StructModel.BuiltFrom.supports_fill (h : m.BuiltFrom t fields i) {d : Descriptor}
    {c : Content} (hc : ContentOf i d c) (hself : "self" ∈ site.locals) (hinstance : "instance" ∈ site.locals)
    (harray : c.isArray = true → "i" ∈ site.locals)
    (hmap : c.isMap = true → "key" ∈ site.locals ∧ "value" ∈ site.locals) :
    ∀ u ∈ fillUses d c, IsSupported m site u := by
  have htype : ∀ u ∈ typeUses d c, IsSupported m site u := h.supports_type hc
  unfold fillUses
  rw [List.forall_mem_append, List.forall_mem_cons, List.forall_mem_singleton]
  refine ⟨⟨hself, hinstance⟩, ?_⟩
  cases hc with
  | sequence _ _ hallocator hbound helement =>
    simp only [List.forall_mem_append, List.forall_mem_cons]
    exact ⟨⟨⟨h.mem_runtimeImports.mpr hbound, rfl⟩, ⟨h.mem_runtimeImports.mpr hallocator, rfl⟩, rfl,
      rfl, harray rfl, by simp⟩, htype, h.supports_copy helement⟩
  | widened _ _ hallocator hbound _ hvalue =>
    simp only [List.forall_mem_append, List.forall_mem_cons, KeyCopy.uses]
    exact ⟨⟨⟨h.mem_runtimeImports.mpr hbound, rfl⟩, ⟨h.mem_runtimeImports.mpr hallocator, rfl⟩, rfl,
      (hmap rfl).1, (hmap rfl).2, by simp⟩, htype, ⟨rfl, by simp⟩, h.supports_copy hvalue⟩
  | mapping _ _ hallocator hbound _ helement hvalue =>
    simp only [List.forall_mem_append, List.forall_mem_cons, KeyCopy.uses]
    exact ⟨⟨⟨h.mem_runtimeImports.mpr hbound, rfl⟩, ⟨h.mem_runtimeImports.mpr hallocator, rfl⟩, rfl,
      (hmap rfl).1, (hmap rfl).2, by simp⟩, htype, h.supports_copy helement, h.supports_copy hvalue⟩
  | vector3 _ hbound =>
    simp only [Copy.uses, List.forall_mem_singleton]
    exact ⟨h.mem_runtimeImports.mpr hbound, rfl⟩
  | vector2 _ hbound =>
    simp only [Copy.uses, List.forall_mem_singleton]
    exact ⟨h.mem_runtimeImports.mpr hbound, rfl⟩
  | scalar => simp

theorem StructModel.BuiltFrom.supports_default (h : m.BuiltFrom t fields i) {d : Descriptor}
    {c : Content} (hc : ContentOf i d c) :
    ∀ u ∈ defaultUses d c, IsSupported m (.body StructModel.defaultVariables) u := by
  have htype : ∀ u ∈ typeUses d c, IsSupported m (.body StructModel.defaultVariables) u :=
    h.supports_type hc
  unfold defaultUses
  rw [List.forall_mem_cons]
  refine ⟨(by decide : "mirror" ∈ StructModel.defaultVariables), ?_⟩
  cases hc with
  | sequence _ _ _ hbound =>
    exact List.forall_mem_cons.mpr ⟨⟨h.mem_runtimeImports.mpr hbound, rfl⟩, htype⟩
  | widened _ _ _ hbound =>
    exact List.forall_mem_cons.mpr ⟨⟨h.mem_runtimeImports.mpr hbound, rfl⟩, htype⟩
  | mapping _ _ _ hbound =>
    exact List.forall_mem_cons.mpr ⟨⟨h.mem_runtimeImports.mpr hbound, rfl⟩, htype⟩
  | vector3 _ hbound => exact List.forall_mem_singleton.mpr ⟨h.mem_runtimeImports.mpr hbound, rfl⟩
  | vector2 _ hbound => exact List.forall_mem_singleton.mpr ⟨h.mem_runtimeImports.mpr hbound, rfl⟩
  | @scalar _ zero =>
    cases zero with
    | literal => simp
    | firstMember => exact List.forall_mem_cons.mpr ⟨rfl, List.forall_mem_cons.mpr ⟨rfl, htype⟩⟩
    | construct => exact htype

/-- Every name of the constructor and of the default is supported, in a method whose variables are
among those of all methods. -/
theorem StructModel.BuiltFrom.supports (h : m.BuiltFrom t fields i) :
    ∀ u ∈ m.uses t fields, IsSupported m u.site (u.name, u.meant) ∧
      ∀ name ∈ u.site.locals, name ∈ methodVariables := by
  have hconstructor : ∀ name ∈ m.constructorVariables, name ∈ methodVariables := by
    unfold StructModel.constructorVariables
    split <;> split <;> decide
  have hdefault : ∀ name ∈ StructModel.defaultVariables, name ∈ methodVariables := by decide
  unfold StructModel.uses
  simp only [List.forall_mem_append, List.forall_mem_cons]
  refine ⟨⟨⟨h.supports_reference h.sourceExpr, nofun⟩, ⟨⟨rfl, rfl⟩, nofun⟩,
    ⟨(by decide : "cls" ∈ StructModel.defaultVariables), hdefault⟩,
    ⟨(by decide : "mirror" ∈ StructModel.defaultVariables), hdefault⟩, by simp⟩, ?_⟩
  intro u hu
  obtain ⟨⟨d, s⟩, hpair, hu⟩ := List.mem_flatMap.mp hu
  have hcontent := (List.forall₂_zip h.slots hpair).content
  have hs : s ∈ m.slots := (List.of_mem_zip hpair).2
  rw [List.mem_append, List.mem_map, List.mem_map] at hu
  rcases hu with ⟨use, huse, rfl⟩ | ⟨use, huse, rfl⟩
  · refine ⟨h.supports_fill hcontent ?_ ?_ ?_ ?_ use huse, hconstructor⟩
    · simp [Site.locals, StructModel.constructorVariables]
    · simp [Site.locals, StructModel.constructorVariables]
    · intro harray
      have hany : (m.slots.any fun s => s.content.isArray) = true :=
        List.any_eq_true.mpr ⟨s, hs, harray⟩
      simp [Site.locals, StructModel.constructorVariables, hany]
    · intro hmap
      have hany : (m.slots.any fun s => s.content.isMap) = true :=
        List.any_eq_true.mpr ⟨s, hs, hmap⟩
      simp [Site.locals, StructModel.constructorVariables, hany]
  · exact ⟨h.supports_default hcontent use huse, hdefault⟩

end Support

section Resolution

variable {m : StructModel} {t : Target} {fields : List Descriptor} {i : Imports} {name : String}
  {site : Site} {x : Meaning}

theorem RuntimeName.isPlain_text (n : RuntimeName) : Text.isPlain n.text = true := by
  cases n <;> decide +kernel

theorem isPlain_numericName : Text.isPlain numericName = true := by decide +kernel

theorem StructModel.mem_libraryGlobals :
    (name, x) ∈ m.libraryGlobals ↔
      (∃ n ∈ m.runtimeImports, n.text = name ∧ .library n = x) ∨
      (m.needsNumpy = true ∧ name = numericName ∧ x = .numeric) := by
  unfold libraryGlobals
  rw [List.mem_append, List.mem_reverse, List.mem_map]
  apply or_congr
  · simp only [Prod.mk.injEq]
  · split <;> simp_all

theorem RuntimeName.text_injective {n n' : RuntimeName} (h : n.text = n'.text) : n = n' := by
  revert h
  cases n <;> cases n' <;> decide

theorem RuntimeName.text_ne_numericName (n : RuntimeName) : n.text ≠ numericName := by
  cases n <;> decide

def unitTarget (name : String) : Target :=
  ⟨"Native" ++ name, "Native" ++ name ++ ".py", name, "game.units", name⟩

end Resolution

end StructForge.Struct

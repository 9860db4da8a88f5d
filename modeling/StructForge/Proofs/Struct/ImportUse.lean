import StructForge.Proofs.Schema.Extraction
import StructForge.Proofs.Struct.Hygiene
import StructForge.Proofs.Struct.ImportRequests

/-! # Imports and what they are used for

A generated module imports what it uses and nothing else. Each step of the builder asks for certain
names of the container library and for certain types, and a run of steps for those of its steps
together. -/

namespace StructForge.Struct

open Schema

/-! ## What fields ask for -/

def elementLibrary (r : TypeRef) : List RuntimeName :=
  match r.shape with
  | .vector3 => [.float3]
  | .vector2 => [.float2]
  | _ => []

def fieldLibrary (d : Descriptor) : List RuntimeName :=
  match d.category, d.type.args with
  | .sequence, element :: _ => [.allocator, .array] ++ elementLibrary element
  | .mapping, [key, value] =>
    [.allocator, .map] ++
      ((if key.isEnum then [] else elementLibrary key) ++ elementLibrary value)
  | .vector3, _ => [.float3]
  | .vector2, _ => [.float2]
  | _, _ => []

/-- The types whose values a field holds: its own, or the element types of a container. -/
def valueTypes (d : Descriptor) : List TypeRef :=
  match d.category with
  | .sequence | .mapping => d.type.args
  | .vector3 | .vector2 | .scalar => [d.type]

/-- Some imports, and those after certain names of the container library and types were asked
for. -/
structure Imports.Grows (i : Imports) (names : List RuntimeName) (asked : List Reference)
    (j : Imports) : Prop where
  runtime : j.runtime = i.runtime ++ names
  needsNumpy : j.needsNumpy = true ↔ i.needsNumpy = true ∨ ∃ r ∈ asked, r.1 = "numpy"
  roots : (i.bindings.map (·.root)).Nodup → (j.bindings.map (·.root)).Nodup

theorem Imports.Grows.trans {i j k : Imports} {names names' : List RuntimeName}
    {asked asked' : List Reference} (h : i.Grows names asked j) (h' : j.Grows names' asked' k) :
    i.Grows (names ++ names') (asked ++ asked') k where
  runtime := by rw [h'.runtime, h.runtime, List.append_assoc]
  needsNumpy := by
    rw [h'.needsNumpy, h.needsNumpy, or_assoc]
    simp only [List.mem_append, or_and_right, exists_or]
  roots hroots := h'.roots (h.roots hroots)

namespace Build

variable {α β : Type} {names names' : List RuntimeName} {asked asked' : List Reference}

/-- Whether a step of the builder asks for the given names and types whenever it ends well. -/
def Requests (x : Build α) (names : List RuntimeName) (asked : List Reference) : Prop :=
  ∀ i a j, x i = .ok (a, j) → i.Grows names asked j

theorem Requests.bind {x : Build α} {f : α → Build β} (hx : Requests x names asked)
    (hf : ∀ a, Requests (f a) names' asked') :
    Requests (x >>= f) (names ++ names') (asked ++ asked') := by
  intro i b k h
  obtain ⟨a, j, hfirst, hrest⟩ := bind_ok.mp h
  exact (hx i a j hfirst).trans (hf a j b k hrest)

theorem requests_pure (a : α) : Requests (pure a) [] [] := by
  intro i b j h
  obtain ⟨-, rfl⟩ := pure_ok.mp h
  exact ⟨(List.append_nil _).symm, by simp, id⟩

/-- A step of which nothing comes but a value asks for nothing more. -/
theorem Requests.map {x : Build α} {f : α → β} (hx : Requests x names asked) :
    Requests (x >>= fun a => pure (f a)) names asked := by
  have h := hx.bind fun a => requests_pure (f a)
  rwa [List.append_nil, List.append_nil] at h

theorem requests_throw (f : ModelFault) : Requests (throw f : Build α) names asked :=
  fun _ _ _ h => absurd h not_throw_ok

theorem requests_use (names : List RuntimeName) : Requests (Build.use names) names [] := by
  intro i a j h
  cases h
  exact ⟨rfl, by simp [Imports.use], id⟩

theorem requests_expression (r : Reference) : Requests (Build.expression r.1 r.2) [] [r] := by
  intro i e j h
  unfold Build.expression at h
  split at h
  · rename_i answer hexpr
    cases h
    refine ⟨?_, ?_, fun hroots => Imports.nodup_roots_expression hroots hexpr⟩
    all_goals
      unfold Imports.expression at hexpr
      split at hexpr
      · rename_i hbuiltins
        cases hexpr
        simp [hbuiltins]
      split at hexpr
      · rename_i hnumpy
        cases hexpr
        simp [hnumpy]
      split at hexpr
      · cases hexpr
      · rename_i hnumpy _
        obtain ⟨⟨localName, j'⟩, hbind, hpure⟩ := bind_eq_ok.mp hexpr
        cases hpure
        rcases Imports.bind_ok hbind with ⟨rfl, -⟩ | ⟨rfl, -⟩ <;> simp [hnumpy]
  · cases h

theorem requests_elementType (r : TypeRef) :
    Requests (Build.elementType r) (elementLibrary r) (elementReferences r) := by
  unfold Build.elementType elementLibrary elementReferences TypeRef.isVector
  cases r.shape with
  | vector3 => exact (requests_use [.float3]).map
  | vector2 => exact (requests_use [.float2]).map
  | _ => exact requests_expression (r.module, r.qualname)

/-- The slot of a field asks for what its category needs, and for the types that it refers to. -/
theorem requests_content (d : Descriptor) :
    Requests (Build.content d) (fieldLibrary d) (fieldReferences d) := by
  unfold Build.content fieldLibrary fieldReferences
  cases d.category with
  | sequence =>
    cases d.type.args with
    | nil => exact fun i a j h => absurd (use_bind_ok h) not_throw_ok
    | cons element rest =>
      exact (requests_use [.allocator, .array]).bind fun _ => (requests_elementType element).map
  | mapping =>
    rcases d.type.args with _ | ⟨key, _ | ⟨value, _ | ⟨third, rest⟩⟩⟩
    case cons.cons.nil =>
      cases hkey : key.isEnum with
      | true =>
        simp only [hkey, if_true]
        exact (requests_use [.allocator, .map]).bind fun _ =>
          (requests_pure enumKeyName).bind fun _ => (requests_elementType value).map
      | false =>
        simp only [hkey, Bool.false_eq_true, if_false]
        exact (requests_use [.allocator, .map]).bind fun _ =>
          (requests_elementType key).bind fun _ => (requests_elementType value).map
    all_goals exact fun i a j h => absurd (use_bind_ok h) not_throw_ok
  | vector3 => exact (requests_use [.float3]).map
  | vector2 => exact (requests_use [.float2]).map
  | scalar =>
    refine (requests_expression (d.type.module, d.type.qualname)).bind fun e => ?_
    cases zeroOf d.type with
    | ok zero => exact requests_pure _
    | error f => exact requests_throw f

theorem requests_slot (sourceName : String) (d : Descriptor) :
    Requests (Build.slot sourceName d) (fieldLibrary d) (fieldReferences d) := by
  unfold Build.slot
  split
  · exact requests_throw _
  · exact (requests_content d).map

theorem requests_slots (sourceName : String) (fields : List Descriptor) :
    Requests (fields.mapM (Build.slot sourceName)) (fields.flatMap fieldLibrary)
      (fields.flatMap fieldReferences) := by
  induction fields with
  | nil =>
    rw [List.mapM_nil]
    exact requests_pure []
  | cons d rest ih =>
    rw [List.mapM_cons]
    exact (requests_slot sourceName d).bind fun _ => ih.map

/-- A module asks for what its fields ask for, and for its source type. -/
theorem requests_module (t : Target) (fields : List Descriptor) :
    Requests (Build.module t fields) (fields.flatMap fieldLibrary) (references t fields) :=
  (requests_expression (t.sourceModule, t.sourceQualname)).bind fun _ =>
    (requests_slots t.sourceName fields).map

end Build

/-! ## What fields use -/

/-- The vectors of the container library that stand for the vectors of source types. -/
def vectorNames : List (Shape × RuntimeName) := [(.vector2, .float2), (.vector3, .float3)]

section Fields

variable {s : Source} {d : Descriptor} {r : TypeRef} {shape : Shape} {n : RuntimeName}

theorem mem_elementLibrary (h : (shape, n) ∈ vectorNames) :
    n ∈ elementLibrary r ↔ r.shape = shape := by
  simp only [vectorNames, List.mem_cons, List.not_mem_nil, or_false, Prod.mk.injEq] at h
  unfold elementLibrary
  rcases h with ⟨rfl, rfl⟩ | ⟨rfl, rfl⟩ <;> cases r.shape <;> decide

theorem shape_of_category (hd : d ∈ s.extract.fields) :
    (d.category = .vector3 → d.type.shape = .vector3) ∧
      (d.category = .vector2 → d.type.shape = .vector2) := by
  obtain ⟨f, -, hclassify, hdescribe⟩ := mem_extract.mp hd
  have htype : d.type = f.type := by rw [hdescribe]; rfl
  rw [← htype] at hclassify
  obtain ⟨rule, hrule, hcategory, haccepts⟩ := exists_rule_of_classify hclassify
  simp only [rules, List.mem_cons, List.not_mem_nil, or_false] at hrule
  constructor
  all_goals
    intro hvector
    rw [hvector] at hcategory
    rcases hrule with rfl | rfl | rfl | rfl | rfl
  case left.inr.inr.inl => exact beq_iff_eq.mp haccepts
  case right.inr.inr.inr.inl => exact beq_iff_eq.mp haccepts
  all_goals cases hcategory

/-- A field asks for a vector of the library exactly if it holds vectors of that size. A key that is
an enum is none. -/
theorem mem_fieldLibrary (hd : d ∈ s.extract.fields) (h : (shape, n) ∈ vectorNames) :
    n ∈ fieldLibrary d ↔ ∃ r ∈ valueTypes d, r.shape = shape := by
  have hvector : n ≠ .allocator ∧ n ≠ .array ∧ n ≠ .map ∧ shape ≠ .enum ∧ shape ≠ .primitive := by
    simp only [vectorNames, List.mem_cons, List.not_mem_nil, or_false, Prod.mk.injEq] at h
    rcases h with ⟨rfl, rfl⟩ | ⟨rfl, rfl⟩ <;> decide
  obtain ⟨hallocator, harray, hmap, henum, hprimitive⟩ := hvector
  unfold fieldLibrary valueTypes
  cases isClassified_of_mem_extract hd with
  | sequence hcategory hargs =>
    simp only [hcategory, hargs, List.mem_append, List.mem_cons, List.not_mem_nil, or_false,
      hallocator, harray, false_or, mem_elementLibrary h, exists_eq_left]
  | mapping hcategory hargs =>
    rename_i key value
    have hkey : n ∈ (if key.isEnum then [] else elementLibrary key) ↔ key.shape = shape := by
      split
      · rename_i hisEnum
        rw [beq_iff_eq.mp hisEnum]
        simp [henum.symm]
      · exact mem_elementLibrary h
    simp only [hcategory, hargs, List.mem_append, List.mem_cons, List.not_mem_nil, or_false,
      hallocator, hmap, false_or, hkey, mem_elementLibrary h, exists_eq_or_imp, exists_eq_left]
  | vector hcategory =>
    have hshape := shape_of_category hd
    simp only [vectorNames, List.mem_cons, List.not_mem_nil, or_false, Prod.mk.injEq] at h
    rcases hcategory with hcategory | hcategory <;> rcases h with ⟨rfl, rfl⟩ | ⟨rfl, rfl⟩ <;>
      simp_all
  | scalar hcategory htype =>
    have hshape : d.type.shape = .primitive ∨ d.type.shape = .enum := by
      simpa [TypeRef.isScalar] using htype
    simp only [hcategory, List.not_mem_nil, List.mem_singleton, exists_eq_left, false_iff]
    rintro rfl
    exact hshape.elim hprimitive henum

theorem mem_fieldLibrary_container (hd : d ∈ s.extract.fields) :
    (.allocator ∈ fieldLibrary d ↔ d.category = .sequence ∨ d.category = .mapping) ∧
      (.array ∈ fieldLibrary d ↔ d.category = .sequence) ∧
      (.map ∈ fieldLibrary d ↔ d.category = .mapping) := by
  have helement (r : TypeRef) : ∀ n ∈ elementLibrary r, n = .float3 ∨ n = .float2 := by
    unfold elementLibrary
    split <;> simp
  unfold fieldLibrary
  cases isClassified_of_mem_extract hd with
  | sequence hcategory hargs =>
    rename_i element
    have hnone : .map ∉ elementLibrary element := fun h => by simpa using helement element _ h
    simp [hcategory, hargs, hnone]
  | mapping hcategory hargs =>
    rename_i key value
    have hkey : .array ∉ if key.isEnum then [] else elementLibrary key := by
      split
      · simp
      · exact fun h => by simpa using helement key _ h
    have hvalue : .array ∉ elementLibrary value := fun h => by simpa using helement value _ h
    simp [hcategory, hargs, hkey, hvalue]
  | vector hcategory => rcases hcategory with hcategory | hcategory <;> simp [hcategory]
  | scalar hcategory _ => simp [hcategory]

end Fields

/-! ## What modules render -/

/-- The expression of an element type that is taken over as it is. The others are vectors. -/
def Copy.typeExpressions : Copy → String → List String
  | .same, e => [e]
  | .vector3, _ | .vector2, _ => []

def KeyCopy.typeExpressions : KeyCopy → String → List String
  | .widen, _ => []
  | .copy how, e => how.typeExpressions e

def Content.typeExpressions : Content → List String
  | .array element copy => copy.typeExpressions element
  | .map key value keyCopy valueCopy =>
    keyCopy.typeExpressions key ++ valueCopy.typeExpressions value
  | .scalar type _ => [type]
  | .vector3 | .vector2 => []

namespace StructModel

def typeExpressions (m : StructModel) : List String :=
  m.sourceExpr :: m.slots.flatMap (·.content.typeExpressions)

def importedPairs (m : StructModel) : List (String × String) :=
  m.imports.flatMap fun line => line.names.map fun b => (line.module, b.name)

/-- Whether an expression of a module denotes a type: a built-in one by its place, a numeric one
below the library that is imported, and another one by what the import lines bind. -/
def Denotes (m : StructModel) (r : Reference) (e : String) : Prop :=
  (r.1 = "builtins" ∧ e = r.2) ∨
  (r.1 = "numpy" ∧ e = "np." ++ r.2 ∧ m.needsNumpy = true) ∨
  (r.IsImported ∧ Imports.denoted? m.bindings e = some r)

/-- What the imports of a module are, in terms of its fields. -/
structure ImportsUsed (m : StructModel) (t : Target) (fields : List Descriptor) : Prop where
  sorted : (m.runtimeImports.map (·.text)).Pairwise (· < ·)
  allocator : .allocator ∈ m.runtimeImports ↔
    ∃ d ∈ fields, d.category = .sequence ∨ d.category = .mapping
  array : .array ∈ m.runtimeImports ↔ ∃ d ∈ fields, d.category = .sequence
  map : .map ∈ m.runtimeImports ↔ ∃ d ∈ fields, d.category = .mapping
  float2 : .float2 ∈ m.runtimeImports ↔ ∃ d ∈ fields, ∃ r ∈ valueTypes d, r.shape = .vector2
  float3 : .float3 ∈ m.runtimeImports ↔ ∃ d ∈ fields, ∃ r ∈ valueTypes d, r.shape = .vector3
  numpy : m.needsNumpy = true ↔ ∃ r ∈ references t fields, r.1 = "numpy"
  nodup : m.importedPairs.Nodup
  pairs : ∀ p, p ∈ m.importedPairs ↔ ∃ r ∈ references t fields, r.IsImported ∧ r.root = p
  denotes : List.Forall₂ m.Denotes (references t fields) m.typeExpressions
  supported : ∀ u ∈ m.uses t fields, IsSupported m u.site (u.name, u.meant)
  used : ∀ n ∈ m.runtimeImports, ∃ u ∈ m.uses t fields, u.name = n.text ∧ u.meant = .library n

end StructModel

section Rendered

variable {m : StructModel} {t : Target} {fields : List Descriptor} {i : Imports} {d : Descriptor}
  {c : Content} {r : TypeRef} {e : String} {n : RuntimeName}

/-- An element type is taken over as it is unless it is a vector. -/
theorem typeExpressions_ofType (h : ElementType i r e) :
    List.Forall₂ i.Denotes (elementReferences r) ((Copy.ofType r).typeExpressions e) := by
  unfold elementReferences Copy.ofType TypeRef.isVector
  cases h with
  | vector3 hshape _ =>
    rw [hshape]
    exact .nil
  | vector2 hshape _ =>
    rw [hshape]
    exact .nil
  | other hshape hdenotes =>
    simp only [TypeRef.isVector] at hshape
    rw [hshape, if_neg Bool.false_ne_true]
    simp only [Bool.or_eq_false_iff, beq_eq_false_iff_ne] at hshape
    split
    · exact absurd ‹_› hshape.2
    · exact absurd ‹_› hshape.1
    · exact .cons hdenotes .nil

theorem ContentOf.typeExpressions (h : ContentOf i d c) :
    List.Forall₂ i.Denotes (fieldReferences d) c.typeExpressions := by
  unfold fieldReferences
  cases h with
  | sequence hcategory hargs _ _ helement =>
    rw [hcategory, hargs]
    exact typeExpressions_ofType helement
  | widened hcategory hargs _ _ hkey hvalue =>
    rw [hcategory, hargs]
    simp only [hkey, if_true]
    exact typeExpressions_ofType hvalue
  | mapping hcategory hargs _ _ hkey helement hvalue =>
    rw [hcategory, hargs]
    simp only [hkey, Bool.false_eq_true, if_false]
    exact List.rel_append (typeExpressions_ofType helement) (typeExpressions_ofType hvalue)
  | vector3 hcategory _ =>
    rw [hcategory]
    exact .nil
  | vector2 hcategory _ =>
    rw [hcategory]
    exact .nil
  | scalar hcategory hdenotes _ =>
    rw [hcategory]
    exact .cons hdenotes .nil

/-- A vector of the library that an element type asks for is named by its expression. -/
theorem eq_of_mem_elementLibrary (h : ElementType i r e) (hn : n ∈ elementLibrary r) :
    (n.text, .library n) = ((splitHead e).1, elementMeaning r) := by
  unfold elementLibrary at hn
  unfold elementMeaning
  cases h with
  | vector3 hshape _ =>
    rw [hshape] at hn ⊢
    rw [List.mem_singleton.mp hn]
    rfl
  | vector2 hshape _ =>
    rw [hshape] at hn ⊢
    rw [List.mem_singleton.mp hn]
    rfl
  | other hshape _ =>
    simp only [TypeRef.isVector, Bool.or_eq_false_iff, beq_eq_false_iff_ne] at hshape
    split at hn
    · exact absurd ‹_› hshape.2
    · exact absurd ‹_› hshape.1
    · cases hn

theorem ContentOf.mem_fillUses (h : ContentOf i d c) (hn : n ∈ fieldLibrary d) :
    (n.text, .library n) ∈ fillUses d c := by
  unfold fieldLibrary at hn
  cases h with
  | sequence hcategory hargs _ _ helement =>
    simp only [hcategory, hargs, List.mem_append, List.mem_cons, List.not_mem_nil, or_false] at hn
    simp only [fillUses, typeUses, hargs, List.mem_append, List.mem_cons]
    rcases hn with (rfl | rfl) | hn
    · simp [RuntimeName.text]
    · simp [RuntimeName.text]
    · simp [eq_of_mem_elementLibrary helement hn]
  | widened hcategory hargs _ _ hkey hvalue =>
    simp only [hcategory, hargs, hkey, if_true, List.mem_append, List.mem_cons, List.not_mem_nil,
      or_false, false_or] at hn
    simp only [fillUses, typeUses, hargs, List.mem_append, List.mem_cons]
    rcases hn with (rfl | rfl) | hn
    · simp [RuntimeName.text]
    · simp [RuntimeName.text]
    · simp [eq_of_mem_elementLibrary hvalue hn]
  | mapping hcategory hargs _ _ hkey helement hvalue =>
    simp only [hcategory, hargs, hkey, Bool.false_eq_true, if_false, List.mem_append, List.mem_cons,
      List.not_mem_nil, or_false] at hn
    simp only [fillUses, typeUses, hargs, hkey, Bool.false_eq_true, if_false, List.mem_append,
      List.mem_cons]
    rcases hn with (rfl | rfl) | hn | hn
    · simp [RuntimeName.text]
    · simp [RuntimeName.text]
    · simp [eq_of_mem_elementLibrary helement hn]
    · simp [eq_of_mem_elementLibrary hvalue hn]
  | vector3 hcategory _ =>
    simp only [hcategory, List.mem_singleton] at hn
    simp [hn, fillUses, Copy.uses, RuntimeName.text]
  | vector2 hcategory _ =>
    simp only [hcategory, List.mem_singleton] at hn
    simp [hn, fillUses, Copy.uses, RuntimeName.text]
  | scalar hcategory _ _ =>
    simp only [hcategory] at hn
    cases hn

namespace StructModel

theorem BuiltFrom.importedPairs_eq (h : m.BuiltFrom t fields i)
    (hroots : (i.bindings.map (·.root)).Nodup) : m.importedPairs = m.bindings.map (·.root) := by
  unfold importedPairs bindings
  rw [List.map_flatMap]
  refine List.flatMap_congr fun line hline => List.map_congr_left fun b hb => ?_
  rw [h.imports] at hline
  rw [← (Imports.names_of_mem_lines hroots hline).2 b hb]
  rfl

theorem BuiltFrom.denotes (h : m.BuiltFrom t fields i) {ref : Reference}
    (hdenotes : i.Denotes ref e) : m.Denotes ref e := by
  have hdenotes' := hdenotes
  obtain ⟨hmodule, he⟩ | ⟨hmodule, he, hnumpy⟩ | ⟨himported, -⟩ := hdenotes'
  · exact .inl ⟨hmodule, he⟩
  · exact .inr (.inl ⟨hmodule, he, h.needsNumpy.trans hnumpy⟩)
  · refine .inr (.inr ⟨himported, ?_⟩)
    rw [bindings, h.imports]
    exact Imports.denoted?_of_denotes h.sound himported hdenotes

theorem BuiltFrom.forall₂_typeExpressions (h : m.BuiltFrom t fields i) :
    List.Forall₂ i.Denotes (references t fields) m.typeExpressions :=
  .cons h.sourceExpr (List.rel_flatMap h.slots fun _ _ hslot => hslot.content.typeExpressions)

theorem BuiltFrom.exists_use (h : m.BuiltFrom t fields i)
    (hn : ∃ d ∈ fields, n ∈ fieldLibrary d) :
    ∃ u ∈ m.uses t fields, u.name = n.text ∧ u.meant = .library n := by
  obtain ⟨d, hd, hn⟩ := hn
  obtain ⟨slot, hpair⟩ := exists_mem_zip_left h.slots hd
  have hfill := (List.forall₂_zip h.slots hpair).content.mem_fillUses hn
  refine ⟨⟨.body m.constructorVariables, n.text, .library n⟩, ?_, rfl, rfl⟩
  refine List.mem_append_right _ (List.mem_flatMap.mpr ⟨_, hpair, List.mem_append_left _ ?_⟩)
  exact List.mem_map.mpr ⟨_, hfill, rfl⟩

theorem build_grows (h : StructModel.build t fields = .ok m) :
    ∃ i, m.BuiltFrom t fields i ∧
      Imports.Grows {} (fields.flatMap fieldLibrary) (references t fields) i := by
  obtain ⟨⟨⟨sourceExpr, slots⟩, i⟩, hmodule, hpure⟩ := bind_eq_ok.mp h
  cases hpure
  exact ⟨i, builtFrom_of_module hmodule, Build.requests_module t fields _ _ _ hmodule⟩

theorem mem_runtimeImports_iff (h : StructModel.build t fields = .ok m) :
    n ∈ m.runtimeImports ↔ ∃ d ∈ fields, n ∈ fieldLibrary d := by
  obtain ⟨i, hbuilt, hgrows⟩ := build_grows h
  rw [hbuilt.mem_runtimeImports, hgrows.runtime, List.nil_append, List.mem_flatMap]

theorem sorted_runtimeImports (h : StructModel.build t fields = .ok m) :
    (m.runtimeImports.map (·.text)).Pairwise (· < ·) := by
  obtain ⟨i, hbuilt⟩ := build_ok h
  have hall : (RuntimeName.all.map (·.text)).Pairwise (· < ·) := by decide
  rw [hbuilt.runtimeImports, List.pairwise_map]
  exact (List.pairwise_map.mp hall).filter _

/-- The imports of a module are what it uses: of the container library the names that its categories
and vectors call for, of other modules the first names of the types that it refers to, and the
numeric library if one of these is there. A vector, and an enum that is the key of a mapping, is no
type that a module refers to. -/
theorem importsUsed_of_build {s : Source} (h : StructModel.build t s.extract.fields = .ok m) :
    m.ImportsUsed t s.extract.fields := by
  obtain ⟨i, hbuilt, hgrows⟩ := build_grows h
  have hroots : (i.bindings.map (·.root)).Nodup := hgrows.roots List.nodup_nil
  have hpairs := hbuilt.importedPairs_eq hroots
  have hbindings : m.bindings.Perm i.bindings := by
    rw [bindings, hbuilt.imports]
    exact Imports.perm_lines hroots
  have hcategory {n : RuntimeName} {P : Category → Prop}
      (hn : ∀ d ∈ s.extract.fields, n ∈ fieldLibrary d ↔ P d.category) :
      n ∈ m.runtimeImports ↔ ∃ d ∈ s.extract.fields, P d.category := by
    rw [mem_runtimeImports_iff h]
    exact exists_congr fun d => and_congr_right fun hd => hn d hd
  have hvector {n : RuntimeName} {shape : Shape} (hn : (shape, n) ∈ vectorNames) :
      n ∈ m.runtimeImports ↔ ∃ d ∈ s.extract.fields, ∃ r ∈ valueTypes d, r.shape = shape := by
    rw [mem_runtimeImports_iff h]
    exact exists_congr fun d => and_congr_right fun hd => mem_fieldLibrary hd hn
  exact
    { sorted := sorted_runtimeImports h
      allocator := hcategory (P := fun c => c = .sequence ∨ c = .mapping)
        fun d hd => (mem_fieldLibrary_container hd).1
      array := hcategory (P := fun c => c = .sequence)
        fun d hd => (mem_fieldLibrary_container hd).2.1
      map := hcategory (P := fun c => c = .mapping)
        fun d hd => (mem_fieldLibrary_container hd).2.2
      float2 := hvector (by decide)
      float3 := hvector (by decide)
      numpy := by rw [hbuilt.needsNumpy, hgrows.needsNumpy]; simp
      nodup := by
        rw [hpairs]
        exact (hbindings.map _).nodup_iff.mpr hroots
      pairs := by
        intro p
        rw [hpairs, (hbindings.map _).mem_iff, Imports.mem_roots_iff hbuilt.sound,
          mem_importedRoots]
      denotes := hbuilt.forall₂_typeExpressions.imp fun _ _ => hbuilt.denotes
      supported := fun u hu => (hbuilt.supports u hu).1
      used := fun n hn => hbuilt.exists_use ((mem_runtimeImports_iff h).mp hn) }

/-- A class with a list of vectors, a dictionary from ranks to small numbers, and a side, which is
an enum inside the class. -/
def squadSource : Source :=
  ⟨"Squad", "game.units", "Squad",
    [⟨"posts", .mk "list" "builtins" "list" .sequence
        [.leaf "Vector3" "game.space" "Vector3" .vector3] false⟩,
      ⟨"losses", .mk "dict" "builtins" "dict" .mapping
        [.mk "Rank" "game.ranks" "Rank" .enum [] true,
          .leaf "int8" "numpy" "int8" .primitive] false⟩,
      ⟨"side", .leaf "Side" "game.units" "Squad.Side" .enum⟩]⟩

/-- Neither the vectors nor the ranks of the squad are imported. -/
theorem importsUsed_squadSource :
    ∃ m, StructModel.build (unitTarget "Squad") squadSource.extract.fields = .ok m ∧
      m.ImportsUsed (unitTarget "Squad") squadSource.extract.fields ∧
      m.importedPairs = [("game.units", "Squad")] ∧
      m.runtimeImports = [.allocator, .array, .map, .float3] ∧ m.needsNumpy = true := by
  obtain ⟨m, hbuild, hright⟩ := exists_of_any
    (x := StructModel.build (unitTarget "Squad") squadSource.extract.fields)
    (p := fun m => m.importedPairs = [("game.units", "Squad")] ∧
      m.runtimeImports = [.allocator, .array, .map, .float3] ∧ m.needsNumpy = true)
    (by decide +kernel)
  exact ⟨m, hbuild, importsUsed_of_build hbuild, hright⟩

end StructModel

end Rendered

end StructForge.Struct

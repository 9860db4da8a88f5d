import StructForge.Proofs.Live.RetainedHint
import StructForge.Proofs.Struct.Hygiene
import StructForge.Proofs.Struct.ImportRequests

/-! # Names of the elements of containers

Classification records a name for each element of a container, and a model has an expression for the
type that it is stored as. The two are made apart from each other. They name the same type unless
the module binds the first name of the expression to something else. -/

namespace StructForge.Struct

open Schema Live

/-! ## What expressions lead to -/

namespace StructModel

/-- What a path leads to by the imports of a module: it goes on below the name that an import binds,
or below the numeric library, or it is a name of the container library; else it is a built-in
one. -/
def leadsTo (m : StructModel) (path : String) : Reference :=
  match Imports.denoted? m.bindings path with
  | some r => r
  | none =>
    let (head, rest) := splitHead path
    if m.needsNumpy && head == numericName then ("numpy", String.ofList (rest.toList.drop 1))
    else if (m.runtimeImports.map (·.text)).contains head then (runtimeModule, path)
    else ("builtins", path)

/-- Whether an import binds the first name of a path so that it leads to something else, or a
library does so for a built-in type. -/
def Captures (m : StructModel) (r : Reference) (path : String) : Prop :=
  (∃ b ∈ m.bindings, b.localName = (splitHead path).1 ∧
    (b.module, b.name ++ (splitHead path).2) ≠ r) ∨
  (r.1 = "builtins" ∧ (splitHead path).1 ∈ m.libraryNames)

instance (m : StructModel) (r : Reference) (path : String) : Decidable (m.Captures r path) :=
  inferInstanceAs (Decidable (_ ∨ _))

end StructModel

section Leading

variable {m : StructModel} {t : Target} {fields : List Descriptor} {i : Imports} {r : Reference}
  {e : String} {n : RuntimeName}

/-- A path whose first name is bound by an import goes on below what is imported. -/
theorem StructModel.BuiltFrom.leadsTo_of_mem (h : m.BuiltFrom t fields i) {b : Binding}
    (hb : b ∈ m.bindings) (hlocal : b.localName = (splitHead e).1) :
    m.leadsTo e = (b.module, b.name ++ (splitHead e).2) := by
  have hfound : m.bindings.reverse.find? (fun b => b.localName == (splitHead e).1) = some b := by
    cases hfind : m.bindings.reverse.find? (fun b => b.localName == (splitHead e).1) with
    | none =>
      have hne := List.find?_eq_none.mp hfind b (List.mem_reverse.mpr hb)
      simp [hlocal] at hne
    | some b' =>
      have hb' := List.mem_reverse.mp (List.mem_of_find?_eq_some hfind)
      have hsame : b'.localName = (splitHead e).1 := by simpa using List.find?_some hfind
      rw [h.sound.eq_of_localName (h.mem_bindings.mp hb') (h.mem_bindings.mp hb)
        (hsame.trans hlocal.symm)]
  unfold leadsTo Imports.denoted?
  rw [hfound]
  rfl

/-- Without such an import, a path leads into a library or to a built-in name. -/
theorem StructModel.leadsTo_of_not_mem (hnone : (splitHead e).1 ∉ m.importedNames) :
    m.leadsTo e =
      if m.needsNumpy && (splitHead e).1 == numericName then
        ("numpy", String.ofList ((splitHead e).2.toList.drop 1))
      else if (m.runtimeImports.map (·.text)).contains (splitHead e).1 then (runtimeModule, e)
      else ("builtins", e) := by
  have hfind : m.bindings.reverse.find? (fun b => b.localName == (splitHead e).1) = none := by
    rw [List.find?_eq_none]
    intro b hb hlocal
    exact hnone (List.mem_map.mpr ⟨b, List.mem_reverse.mp hb, eq_of_beq hlocal⟩)
  unfold leadsTo Imports.denoted?
  rw [hfind]
  rfl

/-- What is left to show about a path where no import binds its first name. -/
theorem StructModel.BuiltFrom.leadsTo_iff (h : m.BuiltFrom t fields i)
    (hnone : (splitHead e).1 ∉ m.importedNames →
      (m.leadsTo e = r ↔ ¬(r.1 = "builtins" ∧ (splitHead e).1 ∈ m.libraryNames))) :
    m.leadsTo e = r ↔ ¬m.Captures r e := by
  by_cases hmem : (splitHead e).1 ∈ m.importedNames
  · obtain ⟨b, hb, hlocal⟩ := List.mem_map.mp hmem
    obtain ⟨r', -, himported, hmodule, -⟩ := h.sound.origin b (h.mem_bindings.mp hb)
    rw [h.leadsTo_of_mem hb hlocal]
    constructor
    · rintro rfl (⟨b', hb', hlocal', hne⟩ | ⟨hbuiltins, -⟩)
      · rw [h.sound.eq_of_localName (h.mem_bindings.mp hb') (h.mem_bindings.mp hb)
          (hlocal'.trans hlocal.symm)] at hne
        exact hne rfl
      · exact himported.1 (hmodule.symm.trans hbuiltins)
    · intro hfree
      by_contra hne
      exact hfree (.inl ⟨b, hb, hlocal, hne⟩)
  · rw [hnone hmem]
    refine not_congr ⟨.inr, ?_⟩
    rintro (⟨b, hb, hlocal, -⟩ | hlibrary)
    · exact absurd (List.mem_map.mpr ⟨b, hb, hlocal⟩) hmem
    · exact hlibrary

/-- The expression for a type leads to it unless it is captured. -/
theorem StructModel.BuiltFrom.leadsTo_reference_iff (h : m.BuiltFrom t fields i)
    (hdenotes : i.Denotes r e) : m.leadsTo e = r ↔ ¬m.Captures r e := by
  refine h.leadsTo_iff fun hnone => ?_
  obtain ⟨module, qualname⟩ := r
  obtain ⟨rfl, rfl⟩ | ⟨rfl, rfl, hnumpy⟩ | ⟨himported, b, hb, -, -, rfl⟩ := hdenotes
  · rw [m.leadsTo_of_not_mem hnone]
    unfold libraryNames
    split
    · rename_i hnumeric
      rw [Bool.and_eq_true, beq_iff_eq] at hnumeric
      simp [hnumeric.1, hnumeric.2]
    · rename_i hnumeric
      split
      · rename_i hlibrary
        rw [List.contains_iff_mem] at hlibrary
        exact iff_of_false (by simp [runtimeModule])
          (not_not.mpr ⟨rfl, List.mem_append_left _ hlibrary⟩)
      · rename_i hlibrary
        rw [List.contains_iff_mem] at hlibrary
        refine iff_of_true rfl ?_
        rintro ⟨-, hmem⟩
        rcases List.mem_append.mp hmem with hmem | hmem
        · exact hlibrary hmem
        · split at hmem
          · rename_i hneeds
            rw [hneeds, List.mem_singleton.mp hmem] at hnumeric
            exact hnumeric rfl
          · cases hmem
  · have hsplit : splitHead ("np." ++ qualname) = (numericName, "." ++ qualname) := by
      simp [splitHead, numericName, String.toList_append]
    rw [m.leadsTo_of_not_mem hnone, hsplit, h.needsNumpy, hnumpy]
    refine iff_of_true ?_ (by simp)
    simp [String.toList_append]
  · refine absurd (List.mem_map.mpr ⟨b, h.mem_bindings.mpr hb, ?_⟩) hnone
    rw [splitHead_append (h.sound.dot_not_mem hb)]

/-- A name of the container library that is imported leads to it unless it is captured. -/
theorem StructModel.BuiltFrom.leadsTo_library_iff (h : m.BuiltFrom t fields i)
    (hbound : n ∈ i.runtime) :
    m.leadsTo n.text = (runtimeModule, n.text) ↔ ¬m.Captures (runtimeModule, n.text) n.text := by
  have hsplit : splitHead n.text = (n.text, "") := by cases n <;> decide
  refine h.leadsTo_iff fun hnone => ?_
  refine iff_of_true ?_ (by simp [runtimeModule])
  have hmem : n.text ∈ m.runtimeImports.map (·.text) :=
    List.mem_map_of_mem (h.mem_runtimeImports.mpr hbound)
  have hnumeric : (n.text == numericName) = false :=
    beq_eq_false_iff_ne.mpr n.text_ne_numericName
  rw [m.leadsTo_of_not_mem hnone, hsplit, hnumeric, Bool.and_false, if_neg Bool.false_ne_true,
    if_pos (List.contains_iff_mem.mpr hmem)]

end Leading

/-! ## What is recorded and what is stored -/

/-- The type that an element of a container is stored as: an enum that is a key as a whole number,
and a vector as the library's own. -/
def storedType (isKey : Bool) (r : TypeRef) : Reference :=
  if isKey && r.isEnum then ("builtins", enumKeyName)
  else match r.shape with
    | .vector3 => (runtimeModule, "float3")
    | .vector2 => (runtimeModule, "float2")
    | _ => (r.module, r.qualname)

/-- Whether the name recorded for an element and the expression of its conversion name the same
type. -/
inductive StructModel.NamesAlike (m : StructModel) (isKey : Bool) (r : TypeRef) :
    String → String → Prop
  | vector3 (hr : r = describeAs .vector3 .vector3)
      (hleads : m.leadsTo "float3" = (runtimeModule, "float3")) :
      NamesAlike m isKey r "Vector3" "float3"
  | vector2 (hr : r = describeAs .vector2 .vector2)
      (hleads : m.leadsTo "float2" = (runtimeModule, "float2")) :
      NamesAlike m isKey r "Vector2" "float2"
  | widened (hkey : isKey = true) (henum : r.isEnum = true)
      (hleads : m.leadsTo "int" = ("builtins", "int")) : NamesAlike m isKey r "int" "int"
  | other {e : String} (hkey : isKey = true → r.isEnum = false) (hvector : r.isVector = false)
      (hleads : m.leadsTo e = (r.module, r.qualname)) : NamesAlike m isKey r r.name e

section Elements

variable {m : StructModel} {t : Target} {fields : List Descriptor} {i : Imports} {r : TypeRef}
  {name e : String} {registry : Registry} {k : ClassRef} {isKey : Bool}

theorem storedType_of_not_widened (hkey : isKey = true → r.isEnum = false) :
    storedType isKey r = match r.shape with
      | .vector3 => (runtimeModule, "float3")
      | .vector2 => (runtimeModule, "float2")
      | _ => (r.module, r.qualname) := by
  have hplain : (isKey && r.isEnum) = false := by
    cases isKey with
    | true => exact hkey rfl
    | false => rfl
  unfold storedType
  rw [hplain, if_neg Bool.false_ne_true]

theorem storedType_of_not_isVector (hkey : isKey = true → r.isEnum = false)
    (hvector : r.isVector = false) : storedType isKey r = (r.module, r.qualname) := by
  rw [storedType_of_not_widened hkey]
  simp only [TypeRef.isVector, Bool.or_eq_false_iff, beq_eq_false_iff_ne] at hvector
  split
  · exact absurd ‹_› hvector.2
  · exact absurd ‹_› hvector.1
  · rfl

theorem storedType_of_isEnum (henum : r.isEnum = true) :
    storedType true r = ("builtins", enumKeyName) := by
  unfold storedType
  rw [henum, Bool.and_true, if_pos rfl]

theorem StructModel.NamesAlike.leadsTo (h : m.NamesAlike isKey r name e) :
    m.leadsTo e = storedType isKey r := by
  cases h with
  | vector3 hr hleads =>
    rw [hleads, hr, storedType_of_not_widened fun _ => rfl]
    rfl
  | vector2 hr hleads =>
    rw [hleads, hr, storedType_of_not_widened fun _ => rfl]
    rfl
  | widened hkey henum hleads =>
    rw [hleads, hkey, storedType_of_isEnum henum]
    rfl
  | other hkey hvector hleads => rw [hleads, storedType_of_not_isVector hkey hvector]

/-- An element that is no widened key is named alike unless its expression is captured. -/
theorem StructModel.BuiltFrom.namesAlike_iff (h : m.BuiltFrom t fields i)
    (hvector3 : r.shape = .vector3 → r = describeAs .vector3 .vector3)
    (hvector2 : r.shape = .vector2 → r = describeAs .vector2 .vector2)
    (hkey : isKey = true → r.isEnum = false) (helement : ElementType i r e) :
    m.NamesAlike isKey r r.name e ↔ ¬m.Captures (storedType isKey r) e := by
  cases helement with
  | vector3 hshape hbound =>
    have hstored : storedType isKey r = (runtimeModule, "float3") := by
      rw [storedType_of_not_widened hkey, hshape]
    have hname : r.name = "Vector3" := by
      rw [hvector3 hshape]
      rfl
    have hlibrary : m.leadsTo "float3" = (runtimeModule, "float3") ↔
        ¬m.Captures (runtimeModule, "float3") "float3" :=
      h.leadsTo_library_iff (n := .float3) hbound
    rw [hstored, ← hlibrary, hname]
    exact ⟨fun halike => halike.leadsTo.trans hstored, .vector3 (hvector3 hshape)⟩
  | vector2 hshape hbound =>
    have hstored : storedType isKey r = (runtimeModule, "float2") := by
      rw [storedType_of_not_widened hkey, hshape]
    have hname : r.name = "Vector2" := by
      rw [hvector2 hshape]
      rfl
    have hlibrary : m.leadsTo "float2" = (runtimeModule, "float2") ↔
        ¬m.Captures (runtimeModule, "float2") "float2" :=
      h.leadsTo_library_iff (n := .float2) hbound
    rw [hstored, ← hlibrary, hname]
    exact ⟨fun halike => halike.leadsTo.trans hstored, .vector2 (hvector2 hshape)⟩
  | other hshape hdenotes =>
    have hstored := storedType_of_not_isVector hkey hshape
    rw [hstored, ← h.leadsTo_reference_iff hdenotes]
    exact ⟨fun halike => halike.leadsTo.trans hstored, .other hkey hshape⟩

/-- An enum that is a key is named alike unless the name of whole numbers is captured. -/
theorem StructModel.BuiltFrom.namesAlike_widened_iff (h : m.BuiltFrom t fields i)
    (henum : r.isEnum = true) :
    m.NamesAlike true r enumKeyName enumKeyName ↔
      ¬m.Captures (storedType true r) enumKeyName := by
  have hstored := storedType_of_isEnum henum
  rw [hstored, ← h.leadsTo_reference_iff (.inl ⟨rfl, rfl⟩)]
  exact ⟨fun halike => halike.leadsTo.trans hstored, .widened rfl henum⟩

/-- A key is taken over as a number exactly if it is one of an enum, also by the text of how it is
taken over. -/
theorem keyCopy_widens_iff (key : TypeRef) (keyCopy : KeyCopy)
    (h : keyCopy = if key.isEnum then .widen else .copy (.ofType key)) :
    (keyCopy = .widen ↔ key.isEnum = true) ∧
      (keyCopy.text = "int(key.value)" ↔ key.isEnum = true) := by
  subst h
  cases henum : key.isEnum with
  | true => exact ⟨by simp, by simp [KeyCopy.text]⟩
  | false =>
    refine ⟨by simp, ?_⟩
    cases hcopy : Copy.ofType key <;> simp [KeyCopy.text, Copy.text] <;> decide

end Elements

section Main

variable {registry : Registry} {c : ClassRef} {source : Source} {t : Target} {m : StructModel}
  {d : Descriptor} {s : Slot}

/-- Each element of a container of a described class is recorded by one name and has one expression
in the conversion, and these name the same type exactly if the expression is not captured. -/
theorem elements_namedAlike (hdescribe : registry.describe c = .ok source)
    (hbuild : StructModel.build t source.extract.fields = .ok m)
    (hmem : (d, s) ∈ source.extract.fields.zip m.slots) :
    (d.category = .sequence → ∃ element name e, d.type.args = [element] ∧
      d.elementTypes = [name] ∧ s.content = .array e (.ofType element) ∧
      (m.NamesAlike false element name e ↔ ¬m.Captures (storedType false element) e)) ∧
    (d.category = .mapping → ∃ key value keyName valueName keyType valueType keyCopy,
      d.type.args = [key, value] ∧ d.elementTypes = [keyName, valueName] ∧
      s.content = .map keyType valueType keyCopy (.ofType value) ∧
      (keyCopy = .widen ↔ key.isEnum = true) ∧
      (keyCopy.text = "int(key.value)" ↔ key.isEnum = true) ∧
      (m.NamesAlike true key keyName keyType ↔ ¬m.Captures (storedType true key) keyType) ∧
      (m.NamesAlike false value valueName valueType ↔
        ¬m.Captures (storedType false value) valueType)) := by
  obtain ⟨i, hbuilt⟩ := StructModel.build_ok hbuild
  have hcontent := (List.forall₂_zip hbuilt.slots hmem).content
  have hd := (List.of_mem_zip hmem).1
  obtain ⟨hint, htype⟩ := exists_hint_of_mem_extract hdescribe hd
  obtain ⟨f, -, hclassify, hfield⟩ := mem_extract.mp hd
  have hftype : f.type = d.type := by rw [hfield]; rfl
  have hnames : d.elementTypes = elementNames d.category d.type.args := by
    rw [← hftype, hfield]
    rfl
  rw [hftype, htype] at hclassify
  have hretained := isRetained_of_classify hclassify
  generalize s.content = content at hcontent
  constructor
  · intro hcategory
    rw [hcategory] at hretained hnames
    obtain ⟨k, hvalue, hargs⟩ := hretained.args_sequence
    rw [← htype] at hargs
    obtain ⟨hvector3, hvector2⟩ := describe_vector hvalue
    cases hcontent with
    | sequence _ hargs' _ _ helement =>
      rw [hargs] at hargs'
      cases hargs'
      exact ⟨_, _, _, hargs, by rw [hnames, hargs]; rfl, rfl,
        hbuilt.namesAlike_iff hvector3 hvector2 nofun helement⟩
    | widened hcategory' => cases hcategory.symm.trans hcategory'
    | mapping hcategory' => cases hcategory.symm.trans hcategory'
    | vector3 hcategory' => cases hcategory.symm.trans hcategory'
    | vector2 hcategory' => cases hcategory.symm.trans hcategory'
    | scalar hcategory' => cases hcategory.symm.trans hcategory'
  · intro hcategory
    rw [hcategory] at hretained hnames
    obtain ⟨k, v, hkeyValue, hvalue, hargs⟩ := hretained.args_mapping
    rw [← htype] at hargs
    obtain ⟨hkey3, hkey2⟩ := describe_vector hkeyValue
    obtain ⟨hvalue3, hvalue2⟩ := describe_vector hvalue
    cases hcontent with
    | sequence hcategory' => cases hcategory.symm.trans hcategory'
    | widened _ hargs' _ _ henum helement =>
      rw [hargs] at hargs'
      cases hargs'
      obtain ⟨hwiden, htext⟩ := keyCopy_widens_iff _ .widen (by rw [henum]; rfl)
      exact ⟨_, _, _, _, _, _, _, hargs, by rw [hnames, hargs, elementNames, henum, if_pos rfl],
        rfl, hwiden, htext, hbuilt.namesAlike_widened_iff henum,
        hbuilt.namesAlike_iff hvalue3 hvalue2 nofun helement⟩
    | mapping _ hargs' _ _ henum helement helement' =>
      rw [hargs] at hargs'
      cases hargs'
      obtain ⟨hwiden, htext⟩ := keyCopy_widens_iff _ (.copy (.ofType _)) (by rw [henum]; rfl)
      exact ⟨_, _, _, _, _, _, _, hargs,
        by rw [hnames, hargs, elementNames, henum, if_neg Bool.false_ne_true], rfl, hwiden, htext,
        hbuilt.namesAlike_iff hkey3 hkey2 (fun _ => henum) helement,
        hbuilt.namesAlike_iff hvalue3 hvalue2 nofun helement'⟩
    | vector3 hcategory' => cases hcategory.symm.trans hcategory'
    | vector2 hcategory' => cases hcategory.symm.trans hcategory'
    | scalar hcategory' => cases hcategory.symm.trans hcategory'

def tier (name : String) : ClassRef :=
  .defined 0 ⟨"Tier", "game.units", name ++ ".Tier"⟩ (some .plain)

/-- A class with a list of its tiers, a list of numbers, and a dictionary from tiers to vectors. -/
def army (name : String) : ClassRef := .defined 1 ⟨name, "game.units", name⟩ none

def armyRegistry (name : String) : Registry where
  classes := [
    { label := (tier name).label
      order := [tier name, .enumBase .plain, objectClass]
      body := .enum .plain (membersOf [("LOW", .int 1), ("HIGH", .int 2)])
      collected := none
      attributes := [] },
    { label := (army name).label
      order := [army name, objectClass]
      body := .record true [("tiers", .generic .list [.cls (tier name)]),
        ("strength", .generic .list [.cls (.builtin "int")]),
        ("posts", .capitalGeneric .dict [.cls (tier name), .cls .vector3])]
      collected := some [("tiers", .field), ("strength", .field), ("posts", .field)]
      attributes := [("Tier", .hint (.cls (tier name)))] }]
  modules := [⟨"game.units", [(name, .hint (.cls (army name)))]⟩]

def tierType (name : String) : TypeRef := .mk "Tier" "game.units" (name ++ ".Tier") .enum [] true

def armySource (name : String) : Source :=
  ⟨name, "game.units", name,
    [⟨"tiers", .mk "list" "builtins" "list" .sequence [tierType name] false⟩,
      ⟨"strength", .mk "list" "builtins" "list" .sequence
        [.leaf "int" "builtins" "int" .primitive] false⟩,
      ⟨"posts", .mk "dict" "builtins" "dict" .mapping
        [tierType name, describeAs .vector3 .vector3] false⟩]⟩

theorem describe_army (name : String) :
    (armyRegistry name).describe (army name) = .ok (armySource name) := rfl

def Content.elementTypes : Content → List String
  | .array e _ => [e]
  | .map keyType valueType _ _ => [keyType, valueType]
  | _ => []

theorem exists_slots_of_elementTypes {types types' types'' : List String}
    (h : m.slots.map (·.content.elementTypes) = [types, types', types'']) :
    ∃ s s' s'', m.slots = [s, s', s''] ∧ s'.content.elementTypes = types' ∧
      s''.content.elementTypes = types'' := by
  obtain ⟨s, rest, hslots, -, h⟩ := List.map_eq_cons_iff.mp h
  obtain ⟨s', rest, rfl, hs', h⟩ := List.map_eq_cons_iff.mp h
  obtain ⟨s'', rest, rfl, hs'', h⟩ := List.map_eq_cons_iff.mp h
  obtain rfl := List.map_eq_nil_iff.mp h
  exact ⟨s, s', s'', hslots, hs', hs''⟩

/-- The keys of the posts are recorded and stored as whole numbers, and the posts themselves as
vectors of two libraries. -/
theorem elements_namedAlike_army :
    ∃ m d s, StructModel.build (unitTarget "Army") (armySource "Army").extract.fields = .ok m ∧
      (d, s) ∈ (armySource "Army").extract.fields.zip m.slots ∧
      d.elementTypes = ["int", "Vector3"] ∧ s.content.elementTypes = ["int", "float3"] ∧
      m.NamesAlike true (tierType "Army") "int" "int" ∧
      m.NamesAlike false (describeAs .vector3 .vector3) "Vector3" "float3" := by
  obtain ⟨m, hbuild, htypes, hkey, hvalue⟩ := exists_of_any
    (x := StructModel.build (unitTarget "Army") (armySource "Army").extract.fields)
    (p := fun m =>
      m.slots.map (·.content.elementTypes) = [["Army.Tier"], ["int"], ["int", "float3"]] ∧
      ¬m.Captures (storedType true (tierType "Army")) "int" ∧
      ¬m.Captures (storedType false (describeAs .vector3 .vector3)) "float3")
    (by decide +kernel)
  obtain ⟨s, s', posts, hslots, -, hposts⟩ := exists_slots_of_elementTypes htypes
  have hmem : ((⟨"posts", .mapping, ["int", "Vector3"], .mk "dict" "builtins" "dict" .mapping
        [tierType "Army", describeAs .vector3 .vector3] false⟩ : Descriptor), posts) ∈
      (armySource "Army").extract.fields.zip m.slots := by
    rw [hslots]
    exact List.mem_cons_of_mem _ (List.mem_cons_of_mem _ List.mem_cons_self)
  obtain ⟨-, hmapping⟩ := elements_namedAlike (describe_army "Army") hbuild hmem
  obtain ⟨key, value, keyName, valueName, keyType, valueType, keyCopy, hargs, hnames, hcontent, -,
    -, hkeyAlike, hvalueAlike⟩ := hmapping rfl
  cases hargs
  cases hnames
  rw [hcontent] at hposts
  cases hposts
  exact ⟨m, _, _, hbuild, hmem, rfl, by rw [hcontent]; rfl, hkeyAlike.mpr hkey,
    hvalueAlike.mpr hvalue⟩

/-- A class called like a built-in type captures the elements of that type. -/
theorem not_all_elements_namedAlike :
    ¬∀ (registry : Registry) (c : ClassRef) (source : Source) (t : Target) (m : StructModel)
      (d : Descriptor) (s : Slot) (element : TypeRef) (name e : String),
      registry.describe c = .ok source → StructModel.build t source.extract.fields = .ok m →
      (d, s) ∈ source.extract.fields.zip m.slots → d.category = .sequence →
      d.type.args = [element] → d.elementTypes = [name] → s.content.elementTypes = [e] →
      m.NamesAlike false element name e := by
  intro hall
  obtain ⟨m, hbuild, htypes, hleads⟩ := exists_of_any
    (x := StructModel.build (unitTarget "int") (armySource "int").extract.fields)
    (p := fun m =>
      m.slots.map (·.content.elementTypes) = [["int.Tier"], ["int"], ["int", "float3"]] ∧
      m.leadsTo "int" = ("game.units", "int"))
    (by decide +kernel)
  obtain ⟨s, strength, s'', hslots, hstrength, -⟩ := exists_slots_of_elementTypes htypes
  have hmem : ((⟨"strength", .sequence, ["int"], .mk "list" "builtins" "list" .sequence
        [.leaf "int" "builtins" "int" .primitive] false⟩ : Descriptor), strength) ∈
      (armySource "int").extract.fields.zip m.slots := by
    rw [hslots]
    exact List.mem_cons_of_mem _ List.mem_cons_self
  have halike := hall _ _ _ _ _ _ _ _ _ _ (describe_army "int") hbuild hmem rfl rfl rfl hstrength
  exact absurd (hleads.symm.trans halike.leadsTo) (by decide)

end Main

end StructForge.Struct

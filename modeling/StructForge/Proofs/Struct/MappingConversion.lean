import StructForge.Proofs.Container.Entries
import StructForge.Proofs.Live.WholeMembers
import StructForge.Proofs.Struct.TakingOver

/-! # Dictionaries become maps

The constructor adds the entries of a dictionary to a map of the same capacity, one by one. A key of
an enum is stored as its number. The map holds the converted entries in order, and does not grow,
unless two keys are converted to equal ones: then the second of them is refused. -/

namespace StructForge.Struct

open Live Container Schema

/-- The classes of keys: those of values, and every enum, as its members are stored as numbers. -/
inductive IsKeyClass (r : Registry) (k : ClassRef) : Prop
  | enum (henum : k.enumBase?.isSome = true)
  | value (hclass : IsValueClass r k)

/-- What the constructor takes over for a key of a class: the number of a member of an enum. -/
inductive IsTakenKey : ClassRef → Value → Value → Prop
  | widened {c cls : ClassRef} {base : EnumBase} {name : String} {value : Value} {i : Int}
      (hc : c.enumBase?.isSome = true) (hvalue : value.toInt = .ok i) :
      IsTakenKey c (.member cls base name value) (.int i)
  | taken {c : ClassRef} {v w : Value} (hc : c.enumBase? = none) (h : IsTaken c v w) :
      IsTakenKey c v w

def AreTaken (k v : ClassRef) : List (Value × Value) → List (Value × Value) → Prop :=
  List.Forall₂ fun a b => IsTakenKey k a.1 b.1 ∧ IsTaken v a.2 b.2

def AreApart (entries : List (Value × Value)) : Prop :=
  entries.Pairwise fun a b => a.1.equals b.1 = false

section Loop

variable {s : Scope} {keyCopy : KeyCopy} {valueCopy : Copy} {entry : Value × Value}
  {entries converted es : List (Value × Value)} {m m' : GrowingMap Value} {n : Nat}

def convertEntry (s : Scope) (keyCopy : KeyCopy) (valueCopy : Copy) (entry : Value × Value) :
    Except Fault (Value × Value) := do
  let k ← keyCopy.take s entry.1
  let v ← valueCopy.take s entry.2
  return (k, v)

theorem fillMap_cons : fillMap s keyCopy valueCopy (entry :: entries) m =
    convertEntry s keyCopy valueCopy entry >>= fun b =>
      m.add b.1 b.2 >>= fun m => fillMap s keyCopy valueCopy entries m := by
  unfold convertEntry
  rw [fillMap, bind_assoc]
  congr 1
  funext k
  rw [bind_assoc]
  rfl

theorem hasKey_eq_false {k : Value} :
    hasKey es k = false ↔ ∀ a ∈ es, a.1.equals k = false := by
  unfold hasKey Key.isFor
  rw [List.any_eq_false]
  simp [instKeyValue]

/-- The loop adds the converted entries in order as long as there is room and no key is met
twice. -/
theorem fillMap_ok (hentries : m.entries = some es) (hcapacity : m.capacity = .int n)
    (hroom : es.length + entries.length ≤ n)
    (hconverted : entries.mapM (convertEntry s keyCopy valueCopy) = .ok converted)
    (hkeys : ∀ b ∈ converted, Key.unhashable? b.1 = none) (hapart : AreApart (es ++ converted)) :
    fillMap s keyCopy valueCopy entries m = .ok { m with entries := some (es ++ converted) } := by
  induction entries generalizing m es converted with
  | nil =>
    rw [List.mapM_nil, pure_eq_ok] at hconverted
    obtain rfl := hconverted
    rw [List.append_nil, ← hentries]
    rfl
  | cons entry entries ih =>
    obtain ⟨b, rest, hb, hrest, rfl⟩ := mapM_cons_eq_ok.mp hconverted
    rw [List.append_cons] at hapart ⊢
    have hnew : hasKey es b.1 = false := by
      rw [hasKey_eq_false]
      intro a ha
      have hbefore := (List.pairwise_append.mp (List.pairwise_append.mp hapart).1).2.2
      exact hbefore a ha b (List.mem_singleton_self b)
    rw [List.length_cons] at hroom
    rw [fillMap_cons, hb]
    change m.add b.1 b.2 >>= _ = _
    rw [GrowingMap.add_new hentries hcapacity (by omega) (hkeys b List.mem_cons_self) hnew]
    refine ih rfl hcapacity ?_ hrest (fun b' hb' => hkeys b' (List.mem_cons_of_mem _ hb')) hapart
    rw [List.length_append, List.length_singleton]
    omega

/-- The loop refuses the first converted key that is met twice. -/
theorem fillMap_duplicate (hentries : m.entries = some es) (hcapacity : m.capacity = .int n)
    (hroom : es.length + entries.length ≤ n)
    (hconverted : entries.mapM (convertEntry s keyCopy valueCopy) = .ok converted)
    (hkeys : ∀ b ∈ converted, Key.unhashable? b.1 = none) (hes : AreApart es)
    (hclash : ¬AreApart (es ++ converted)) :
    ∃ b ∈ converted, fillMap s keyCopy valueCopy entries m = .error (duplicateFault b.1) := by
  induction entries generalizing m es converted with
  | nil =>
    rw [List.mapM_nil, pure_eq_ok] at hconverted
    obtain rfl := hconverted
    rw [List.append_nil] at hclash
    exact absurd hes hclash
  | cons entry entries ih =>
    obtain ⟨b, rest, hb, hrest, rfl⟩ := mapM_cons_eq_ok.mp hconverted
    rw [List.length_cons] at hroom
    rw [fillMap_cons, hb]
    cases hkey : hasKey es b.1 with
    | true =>
      refine ⟨b, List.mem_cons_self, ?_⟩
      change m.add b.1 b.2 >>= _ = _
      rw [GrowingMap.add_duplicate hentries (hkeys b List.mem_cons_self) hkey]
      rfl
    | false =>
      have hes' : AreApart (es ++ [b]) := by
        refine List.pairwise_append.mpr ⟨hes, List.pairwise_singleton _ _, fun a ha b' hb' => ?_⟩
        rw [List.mem_singleton.mp hb']
        exact hasKey_eq_false.mp hkey a ha
      rw [List.append_cons] at hclash
      have hroom' : (es ++ [b]).length + entries.length ≤ n := by
        rw [List.length_append, List.length_singleton]
        omega
      obtain ⟨b', hb', hfail⟩ := ih (m := { m with entries := some (es ++ [b]) }) rfl hcapacity
        hroom' hrest (fun b' hb' => hkeys b' (List.mem_cons_of_mem _ hb')) hes' hclash
      refine ⟨b', List.mem_cons_of_mem _ hb', ?_⟩
      change m.add b.1 b.2 >>= _ = _
      rw [GrowingMap.add_new hentries hcapacity (by omega) (hkeys b List.mem_cons_self) hkey]
      exact hfail

theorem mapM_of_fillMap_ok (h : fillMap s keyCopy valueCopy entries m = .ok m') :
    ∃ converted, entries.mapM (convertEntry s keyCopy valueCopy) = .ok converted := by
  induction entries generalizing m with
  | nil => exact ⟨[], rfl⟩
  | cons entry entries ih =>
    rw [fillMap_cons] at h
    obtain ⟨b, hb, h⟩ := bind_eq_ok.mp h
    obtain ⟨m₁, -, h⟩ := bind_eq_ok.mp h
    obtain ⟨rest, hrest⟩ := ih h
    exact ⟨b :: rest, mapM_cons_eq_ok.mpr ⟨b, rest, hb, hrest, rfl⟩⟩

end Loop

def keyCopyOf (r : Registry) (k : ClassRef) : KeyCopy :=
  if (r.describeClass k).isEnum then .widen else .copy (.ofType (r.describeClass k))

def storedKey (k : ClassRef) : ClassRef :=
  if k.enumBase?.isSome then .builtin enumKeyName else storedClass k

section Keys

variable {r : Registry} {m : StructModel} {s : Scope} {k : ClassRef} {a b : Value}
  {locals : List String}

theorem isEnum_of_enumBase (henum : k.enumBase?.isSome = true) :
    (r.describeClass k).isEnum = true := by
  rw [describeClass_enum henum]
  rfl

theorem IsKeyClass.isEnum_eq (hclass : IsKeyClass r k) :
    (r.describeClass k).isEnum = k.enumBase?.isSome := by
  cases hclass with
  | enum henum => rw [henum, isEnum_of_enumBase henum]
  | value hclass =>
    cases hclass with
    | enum henum => rw [henum, isEnum_of_enumBase henum]
    | _ => rfl

theorem IsKeyClass.isValueClass (hclass : IsKeyClass r k) (henum : k.enumBase?.isSome = false) :
    IsValueClass r k := by
  cases hclass with
  | enum henum' =>
    rw [henum] at henum'
    cases henum'
  | value hclass => exact hclass

theorem IsKeyClass.describe (hclass : IsKeyClass r k) :
    (Hint.cls k).describe r = r.describeClass k := by
  cases hclass with
  | enum henum => exact describe_enum henum
  | value hclass => exact hclass.describe

theorem take_widen (hload : Scope.load r m = .ok s) {head : String}
    (hint : m.meaning (.body locals) enumKeyName = .builtin head) {cls : ClassRef} {base : EnumBase}
    {name : String} {value : Value} :
    KeyCopy.widen.take s (.member cls base name value) =
      value.toInt >>= fun i => .ok (Value.int i) := by
  have hfind : s.find enumKeyName = .hint (.cls (.builtin "int")) := Scope.find_builtin hload (by decide) hint
  have hget : (Value.member cls base name value).getAttribute "value" = .ok value := rfl
  rw [KeyCopy.take, hget]
  simp only [hfind]
  rfl

theorem takeKey_iff (hload : Scope.load r m = .ok s) (hclass : IsKeyClass r k)
    (huses : ∀ u ∈ (keyCopyOf r k).uses, m.meaning (.body locals) u.1 = u.2) (ha : IsValueOf k a) :
    (keyCopyOf r k).take s a = .ok b ↔ IsTakenKey k a b := by
  unfold keyCopyOf at huses ⊢
  rw [hclass.isEnum_eq] at huses ⊢
  cases henum : k.enumBase?.isSome with
  | true =>
    rw [henum, if_pos rfl] at huses
    rw [if_pos rfl]
    obtain ⟨w, hw⟩ := ha
    cases hw with
    | @member _ cls base name value =>
      rw [take_widen hload (huses ("int", .builtin "int") List.mem_cons_self), bind_eq_ok]
      constructor
      · rintro ⟨i, hi, ⟨⟩⟩
        exact .widened henum hi
      · intro h
        cases h with
        | widened _ hi => exact ⟨_, hi, rfl⟩
        | taken hc => rw [hc] at henum; cases henum
    | _ => cases henum
  | false =>
    rw [henum, if_neg Bool.false_ne_true] at huses
    rw [if_neg Bool.false_ne_true]
    have htake := take_iff (w := b) hload (hclass.isValueClass henum) huses ha
    constructor
    · intro h
      exact .taken (by simpa using henum) (htake.mp h)
    · intro h
      cases h with
      | widened hc => rw [hc] at henum; cases henum
      | taken _ h => exact htake.mpr h

theorem unhashable?_of_isTakenKey (ha : IsValueOf k a) (h : IsTakenKey k a b) :
    Key.unhashable? b = none := by
  cases h with
  | widened => rfl
  | taken hc h =>
    cases h with
    | vector2 => rfl
    | vector3 => rfl
    | same h2 h3 =>
      obtain ⟨w, hw⟩ := ha
      cases hw with
      | vector2 => contradiction
      | vector3 => contradiction
      | int hv => exact Value.unhashable?_of_wholeNumber hv
      | float hv => exact Value.unhashable?_of_realNumber hv
      | whole _ hv => exact Value.unhashable?_of_wholeNumber hv
      | _ => rfl

theorem isTakenKey_number (hnumber : k.numberKind?.isSome = true) : IsTakenKey k a b ↔ b = a := by
  have henum : k.enumBase? = none := by
    cases henum : k.enumBase? with
    | none => rfl
    | some base =>
      rw [ClassRef.numberKind?_of_enum (by rw [henum]; rfl)] at hnumber
      cases hnumber
  constructor
  · intro h
    cases h with
    | widened hc => rw [henum] at hc; cases hc
    | taken _ h =>
      cases h with
      | same => rfl
      | vector2 => cases hnumber
      | vector3 => cases hnumber
  · rintro rfl
    refine .taken henum (.same ?_ ?_)
    · rintro rfl
      cases hnumber
    · rintro rfl
      cases hnumber

theorem isTakenKey_member {i : Int} (henum : k.enumBase?.isSome = true)
    (hi : a.memberNumber? = some i) : IsTakenKey k a b ↔ b = .int i := by
  constructor
  · intro h
    cases h with
    | widened _ hvalue =>
      rw [Value.toInt_of_whole hi] at hvalue
      cases hvalue
      rfl
    | taken hc => rw [hc] at henum; cases henum
  · rintro rfl
    unfold Value.memberNumber? at hi
    split at hi
    · exact .widened henum (Value.toInt_of_whole hi)
    · cases hi

end Keys

/-- A new map, filled from the entries of a dictionary. -/
def mapOf (s : Scope) (keyCopy : KeyCopy) (valueCopy : Copy) (k v : ClassRef)
    (entries : List (Value × Value)) : Except Fault (GrowingMap Value) := do
  let m ← GrowingMap.create (.hint (.cls (storedKey k))) (.hint (.cls (storedClass v)))
    (.int entries.length) (.allocator .persistent)
  fillMap s keyCopy valueCopy entries m

/-- A dictionary is converted to a new map when the names of the constructor have their meanings. -/
theorem convert_map {s : Scope} {keyCopy : KeyCopy} {valueCopy : Copy} {k v : ClassRef}
    {keyType valueType : String} {entries : List (Value × Value)} {cell : Nat}
    (hkey : s.value keyType = .ok (.hint (.cls (storedKey k))))
    (hvalue : s.value valueType = .ok (.hint (.cls (storedClass v))))
    (hallocator : s.allocator = .ok (.allocator .persistent))
    (hfind : s.find RuntimeName.map.text = .hint (.cls .map)) :
    (Content.map keyType valueType keyCopy valueCopy).convert s (.ok ⟨cell, .dict entries⟩)
        (fun _ => .ok ()) =
      mapOf s keyCopy valueCopy k v entries >>= fun m => .ok (.map m) := by
  have hmap : s.map keyType valueType (.ok entries.length) =
      GrowingMap.create (.hint (.cls (storedKey k))) (.hint (.cls (storedClass v)))
        (.int entries.length) (.allocator .persistent) >>= fun m => .ok (.inl m) := by
    simp only [Scope.map, hkey, hvalue, hallocator, hfind, bind, Except.bind, pure, Except.pure]
  have hconvert (m : GrowingMap Value)
      (hmade : s.map keyType valueType (.ok entries.length) = .ok (.inl m)) :
      (Content.map keyType valueType keyCopy valueCopy).convert s (.ok ⟨cell, .dict entries⟩)
        (fun _ => .ok ()) =
        fillMap s keyCopy valueCopy entries m >>= fun m => .ok (.map m) := by
    change s.map keyType valueType (.ok entries.length) >>= _ = _
    rw [hmade]
    rfl
  unfold mapOf
  cases hcreate : GrowingMap.create (.hint (.cls (storedKey k))) (.hint (.cls (storedClass v)))
      (.int entries.length) (.allocator .persistent) with
  | error f =>
    change s.map keyType valueType (.ok entries.length) >>= _ = _
    rw [hmap, hcreate]
    rfl
  | ok m => exact hconvert m (by rw [hmap, hcreate]; rfl)

theorem Pairing.map_slot {r : Registry} {n : Naming} {c k v : ClassRef} {p : Pairing}
    {name : String} {h : Hint} {slot : Slot}
    (hstart : Pairing.start r n (.hint (.cls c)) = .ok (some p)) (hfree : p.IsCaptureFree r n)
    (hfield : DeclaresField r c name h)
    (hdescribe : h.describe r =
      .mk "dict" "builtins" "dict" .mapping [r.describeClass k, r.describeClass v] false)
    (hclassify : classify (h.describe r) = some .mapping) (hkey : IsKeyClass r k)
    (hvalue : IsValueClass r v) (hslot : slot ∈ p.model.slots) (hname : slot.name = name) :
    ∃ keyType valueType,
      slot.content = .map keyType valueType (keyCopyOf r k) (Copy.ofType (r.describeClass v)) ∧
      p.scope.value keyType = .ok (.hint (.cls (storedKey k))) ∧
      p.scope.value valueType = .ok (.hint (.cls (storedClass v))) ∧
      p.scope.allocator = .ok (.allocator .persistent) ∧
      p.scope.find RuntimeName.map.text = .hint (.cls .map) ∧
      (∀ u ∈ (keyCopyOf r k).uses, p.model.meaning (.body p.model.constructorVariables) u.1 = u.2) ∧
      ∀ u ∈ (Copy.ofType (r.describeClass v)).uses,
        p.model.meaning (.body p.model.constructorVariables) u.1 = u.2 := by
  obtain ⟨-, hload, -⟩ := start_ok hstart
  obtain ⟨i, asked, d, hsound, htype, hcategory, hcontent, huses⟩ :=
    slot_of_field hstart hfree hfield hslot hname
  rw [htype, hclassify, Option.some.injEq] at hcategory
  rw [hdescribe] at htype
  have hkeeps := ((keepsAttributes hfree).2 slot hslot).2
  generalize slot.content = content at hcontent huses hkeeps
  cases hcontent with
  | @widened key value type _ hargs _ _ henum hvalueType =>
    rw [htype] at hargs
    cases hargs
    obtain ⟨hmap, hallocator, htypes, hkeyUses, hvalueUses⟩ := forall_fillUses_map huses
    have hcopy : keyCopyOf r k = .widen := by
      unfold keyCopyOf
      rw [if_pos henum]
    have hstored : storedKey k = .builtin enumKeyName := by
      unfold storedKey
      rw [← hkey.isEnum_eq, if_pos henum]
    rw [hcopy, hstored]
    refine ⟨enumKeyName, type, rfl, ?_, ?_, Scope.allocator_eq hload hallocator,
      Scope.find_library hload hmap rfl, hkeyUses, hvalueUses⟩
    · exact Scope.value_builtin hload (by decide) (hkeyUses _ List.mem_cons_self)
    · refine Scope.value_element hload hsound hvalue hvalueType
        (hkeeps type (List.mem_cons_of_mem _ List.mem_cons_self))
        (htypes ((splitHead type).1, elementMeaning (r.describeClass v)) ?_)
      simp [typeUses, htype, TypeRef.args]
  | @mapping key value type type' _ hargs _ _ henum hkeyType hvalueType =>
    rw [htype] at hargs
    cases hargs
    obtain ⟨hmap, hallocator, htypes, hkeyUses, hvalueUses⟩ := forall_fillUses_map huses
    have hcopy : keyCopyOf r k = .copy (Copy.ofType (r.describeClass k)) := by
      unfold keyCopyOf
      rw [henum, if_neg Bool.false_ne_true]
    have hstored : storedKey k = storedClass k := by
      unfold storedKey
      rw [← hkey.isEnum_eq, henum, if_neg Bool.false_ne_true]
    rw [hcopy, hstored]
    refine ⟨type, type', rfl, ?_, ?_, Scope.allocator_eq hload hallocator,
      Scope.find_library hload hmap rfl, hkeyUses, hvalueUses⟩
    · have hclass := hkey.isValueClass (hkey.isEnum_eq.symm.trans henum)
      refine Scope.value_element hload hsound hclass hkeyType (hkeeps type List.mem_cons_self)
        (htypes ((splitHead type).1, elementMeaning (r.describeClass k)) ?_)
      simp [typeUses, htype, TypeRef.args, henum]
    · refine Scope.value_element hload hsound hvalue hvalueType
        (hkeeps type' (List.mem_cons_of_mem _ List.mem_cons_self))
        (htypes ((splitHead type').1, elementMeaning (r.describeClass v)) ?_)
      simp [typeUses, htype, TypeRef.args]
  | sequence hcategory' => rw [← hcategory] at hcategory'; cases hcategory'
  | vector3 hcategory' => rw [← hcategory] at hcategory'; cases hcategory'
  | vector2 hcategory' => rw [← hcategory] at hcategory'; cases hcategory'
  | scalar hcategory' => rw [← hcategory] at hcategory'; cases hcategory'

section Outcome

variable {r : Registry} {m : StructModel} {s : Scope} {k v : ClassRef} {locals : List String}
  {entries converted : List (Value × Value)} (hload : Scope.load r m = .ok s)
  (hkey : IsKeyClass r k) (hvalue : IsValueClass r v)
  (hkeyUses : ∀ u ∈ (keyCopyOf r k).uses, m.meaning (.body locals) u.1 = u.2)
  (hvalueUses : ∀ u ∈ (Copy.ofType (r.describeClass v)).uses, m.meaning (.body locals) u.1 = u.2)
  (htypes : ∀ entry ∈ entries, IsValueOf k entry.1 ∧ IsValueOf v entry.2)

include hload hkey hvalue hkeyUses hvalueUses htypes

theorem mapM_convertEntry_iff :
    entries.mapM (convertEntry s (keyCopyOf r k) (Copy.ofType (r.describeClass v))) =
      .ok converted ↔ AreTaken k v entries converted := by
  have hentry (entry b : Value × Value) (hmem : entry ∈ entries) :
      convertEntry s (keyCopyOf r k) (Copy.ofType (r.describeClass v)) entry = .ok b ↔
        IsTakenKey k entry.1 b.1 ∧ IsTaken v entry.2 b.2 := by
    obtain ⟨hk, hv⟩ := htypes entry hmem
    unfold convertEntry
    simp only [bind_eq_ok, pure_eq_ok, takeKey_iff hload hkey hkeyUses hk,
      take_iff hload hvalue hvalueUses hv]
    constructor
    · rintro ⟨x, hx, y, hy, rfl⟩
      exact ⟨hx, hy⟩
    · rintro ⟨hx, hy⟩
      exact ⟨b.1, hx, b.2, hy, rfl⟩
  rw [mapM_eq_ok]
  unfold AreTaken
  rw [List.forall₂_iff_zip, List.forall₂_iff_zip]
  refine and_congr_right fun _ => ⟨fun h a b hpair => ?_, fun h a b hpair => ?_⟩
  · exact (hentry a b (List.of_mem_zip hpair).1).mp (h hpair)
  · exact (hentry a b (List.of_mem_zip hpair).1).mpr (h hpair)

omit hload hkey hvalue hkeyUses hvalueUses in
theorem unhashable?_of_areTaken (htaken : AreTaken k v entries converted) :
    ∀ b ∈ converted, Key.unhashable? b.1 = none := by
  intro b hb
  obtain ⟨a, hpair⟩ := exists_mem_zip_right htaken hb
  exact unhashable?_of_isTakenKey (htypes a (List.of_mem_zip hpair).1).1
    (List.forall₂_zip htaken hpair).1

theorem mapOf_ok (htaken : AreTaken k v entries converted) (hapart : AreApart converted) :
    mapOf s (keyCopyOf r k) (Copy.ofType (r.describeClass v)) k v entries =
      .ok ⟨.hint (.cls (storedKey k)), .hint (.cls (storedClass v)), .persistent,
        .int entries.length, some converted⟩ := by
  have hconverted := (mapM_convertEntry_iff hload hkey hvalue hkeyUses hvalueUses htypes).mpr htaken
  have hroom : ([] : List (Value × Value)).length + entries.length ≤ entries.length := by simp
  unfold mapOf
  rw [GrowingMap.create_natCast]
  exact fillMap_ok rfl rfl hroom hconverted (unhashable?_of_areTaken htypes htaken) hapart

theorem mapOf_duplicate (htaken : AreTaken k v entries converted) (hclash : ¬AreApart converted) :
    ∃ b ∈ converted, mapOf s (keyCopyOf r k) (Copy.ofType (r.describeClass v)) k v entries =
      .error (duplicateFault b.1) := by
  have hconverted := (mapM_convertEntry_iff hload hkey hvalue hkeyUses hvalueUses htypes).mpr htaken
  have hroom : ([] : List (Value × Value)).length + entries.length ≤ entries.length := by simp
  unfold mapOf
  rw [GrowingMap.create_natCast]
  exact fillMap_duplicate rfl rfl hroom hconverted (unhashable?_of_areTaken htypes htaken)
    List.Pairwise.nil hclash

theorem exists_mapOf_iff :
    (∃ m, mapOf s (keyCopyOf r k) (Copy.ofType (r.describeClass v)) k v entries = .ok m) ↔
      ∃ converted, AreTaken k v entries converted ∧ AreApart converted := by
  constructor
  · rintro ⟨m, hm⟩
    obtain ⟨converted, htaken⟩ : ∃ converted, AreTaken k v entries converted := by
      have hfill := hm
      unfold mapOf at hfill
      rw [GrowingMap.create_natCast] at hfill
      obtain ⟨converted, hconverted⟩ := mapM_of_fillMap_ok hfill
      exact ⟨converted,
        (mapM_convertEntry_iff hload hkey hvalue hkeyUses hvalueUses htypes).mp hconverted⟩
    refine ⟨converted, htaken, ?_⟩
    by_contra hclash
    obtain ⟨b, -, hfail⟩ :=
      mapOf_duplicate hload hkey hvalue hkeyUses hvalueUses htypes htaken hclash
    rw [hfail] at hm
    cases hm
  · rintro ⟨converted, htaken, hapart⟩
    exact ⟨_, mapOf_ok hload hkey hvalue hkeyUses hvalueUses htypes htaken hapart⟩

end Outcome

def HaveEqualKeys (entries : List (Value × Value)) : Prop :=
  ∃ (i j : Nat) (a b : Value × Value), i < j ∧ entries[i]? = some a ∧ entries[j]? = some b ∧
    a.1.equals b.1 = true

theorem not_areApart_iff {entries : List (Value × Value)} :
    ¬AreApart entries ↔ HaveEqualKeys entries := by
  unfold AreApart HaveEqualKeys
  rw [List.pairwise_iff_getElem]
  constructor
  · intro h
    push Not at h
    obtain ⟨i, j, hi, hj, hij, hequal⟩ := h
    exact ⟨i, j, entries[i], entries[j], hij, List.getElem?_eq_getElem hi,
      List.getElem?_eq_getElem hj, by simpa using hequal⟩
  · rintro ⟨i, j, a, b, hij, ha, hb, hequal⟩ h
    obtain ⟨hi, rfl⟩ := List.getElem?_eq_some_iff.mp ha
    obtain ⟨hj, rfl⟩ := List.getElem?_eq_some_iff.mp hb
    rw [h i j hi hj hij] at hequal
    cases hequal

section Distinct

variable {r : Registry} {k v : ClassRef} {base : EnumBase} {names : Int → String}
  {entries converted : List (Value × Value)}

theorem exists_areTaken (hdict : AreApart entries)
    (hkeys : ∀ a ∈ entries, ∃ x, IsTakenKey k a.1 x) (hvalues : ∀ a ∈ entries, IsValueOf v a.2)
    (hstay : ∀ a ∈ entries, ∀ b ∈ entries, a.1.equals b.1 = false → ∀ x y, IsTakenKey k a.1 x →
      IsTakenKey k b.1 y → x.equals y = false) :
    ∃ converted, AreTaken k v entries converted ∧ AreApart converted := by
  induction entries with
  | nil => exact ⟨[], .nil, .nil⟩
  | cons a entries ih =>
    obtain ⟨hfirst, hrest⟩ := List.pairwise_cons.mp hdict
    obtain ⟨x, hx⟩ := hkeys a List.mem_cons_self
    obtain ⟨w, hw⟩ := hvalues a List.mem_cons_self
    obtain ⟨u, hu, -⟩ := exists_isTaken hw
    obtain ⟨converted, htaken, hapart⟩ := ih hrest
      (fun b hb => hkeys b (List.mem_cons_of_mem _ hb))
      (fun b hb => hvalues b (List.mem_cons_of_mem _ hb))
      fun b hb b' hb' => hstay b (List.mem_cons_of_mem _ hb) b' (List.mem_cons_of_mem _ hb')
    refine ⟨(x, u) :: converted, .cons ⟨hx, hu⟩ htaken, .cons (fun y hy => ?_) hapart⟩
    obtain ⟨b, hpair⟩ := exists_mem_zip_right htaken hy
    have hb := (List.of_mem_zip hpair).1
    exact hstay a List.mem_cons_self b (List.mem_cons_of_mem _ hb) (hfirst b hb) x y.1 hx
      (List.forall₂_zip htaken hpair).1

/-- Keys of a class of numbers are taken over as they are, and stay apart. -/
theorem exists_areTaken_number (hkey : k.numberKind?.isSome = true) (hdict : AreApart entries)
    (hvalues : ∀ a ∈ entries, IsValueOf v a.2) :
    ∃ converted, AreTaken k v entries converted ∧ AreApart converted := by
  refine exists_areTaken hdict (fun a _ => ⟨a.1, (isTakenKey_number hkey).mpr rfl⟩) hvalues ?_
  intro a _ b _ hne x y hx hy
  rw [(isTakenKey_number hkey).mp hx, (isTakenKey_number hkey).mp hy]
  exact hne

theorem exists_areTaken_enum (henum : r.IsEnumClass k base) (hwhole : r.HasWholeMembers k)
    (hdict : AreApart entries) (hkeys : ∀ a ∈ entries, r.IsMember names k a.1)
    (hvalues : ∀ a ∈ entries, IsValueOf v a.2) :
    ∃ converted, AreTaken k v entries converted ∧ AreApart converted := by
  have hsome : k.enumBase?.isSome = true := by
    rw [henum.1]
    rfl
  refine exists_areTaken hdict (fun a ha => ?_) hvalues ?_
  · obtain ⟨i, hi⟩ := (hkeys a ha).exists_number hwhole
    exact ⟨.int i, (isTakenKey_member hsome hi).mpr rfl⟩
  · intro a ha b hb hne x y hx hy
    obtain ⟨i, hi⟩ := (hkeys a ha).exists_number hwhole
    obtain ⟨j, hj⟩ := (hkeys b hb).exists_number hwhole
    rw [(isTakenKey_member hsome hi).mp hx, (isTakenKey_member hsome hj).mp hy,
      Value.whole_equals_int rfl, beq_eq_false_iff_ne]
    rintro rfl
    exact (hkeys a ha).number_ne (hkeys b hb) henum hne hi hj

end Distinct

theorem describe_dict {r : Registry} {k v : ClassRef} {h : Hint} (hkey : IsKeyClass r k)
    (hvalue : IsValueClass r v)
    (hhint : h = .generic .dict [.cls k, .cls v] ∨ h = .capitalGeneric .dict [.cls k, .cls v]) :
    h.describe r =
      .mk "dict" "builtins" "dict" .mapping [r.describeClass k, r.describeClass v] false := by
  have hargs : describeAll r [.cls k, .cls v] = [r.describeClass k, r.describeClass v] := by
    rw [describeAll, describeAll, describeAll, hkey.describe, hvalue.describe]
  rcases hhint with rfl | rfl
  · rw [Hint.describe, hargs]
  · rw [Hint.describe, hargs]

/-- The enum keys of a mapping are of a class that is met as one of whole numbers. -/
theorem isIntValued_of_classify {r : Registry} {k v : ClassRef} (henum : k.enumBase?.isSome = true)
    (hclassify : classify (.mk "dict" "builtins" "dict" .mapping
      [r.describeClass k, r.describeClass v] false) = some .mapping) :
    r.isIntValued k = true := by
  rw [describeClass_enum henum] at hclassify
  cases hint : r.isIntValued k with
  | true => rfl
  | false =>
    rw [hint] at hclassify
    cases hclassify

/-- A field declared as a dictionary of classes of values becomes a map of its entries as they are
taken over, as long as every key can be taken over and no two become equal ones. Two that do are
refused. Numbers never do, and neither do members of an enum. -/
theorem Pairing.fills_mapping {r : Registry} {n : Naming} {c k v : ClassRef} {p : Pairing}
    {name : String} {h : Hint} {entries : List (Value × Value)}
    {source : String → Except Fault Held} {cell : Nat}
    (hstart : Pairing.start r n (.hint (.cls c)) = .ok (some p)) (hfree : p.IsCaptureFree r n)
    (hfield : DeclaresField r c name h)
    (hhint : h = .generic .dict [.cls k, .cls v] ∨ h = .capitalGeneric .dict [.cls k, .cls v])
    (hclassify : classify (h.describe r) = some .mapping) (hkey : IsKeyClass r k)
    (hvalue : IsValueClass r v) (hdict : AreApart entries)
    (htypes : ∀ a ∈ entries, IsValueOf k a.1 ∧ IsValueOf v a.2)
    (hsource : source name = .ok ⟨cell, .dict entries⟩) :
    ∃ outcome, p.Fills source name outcome ∧
      ((∃ part, outcome = .ok part) ↔
        ∃ converted, AreTaken k v entries converted ∧ ¬HaveEqualKeys converted) ∧
      (∀ converted, AreTaken k v entries converted →
        ((∃ f, outcome = .error f) ↔ HaveEqualKeys converted) ∧
        (∀ f, outcome = .error f → ∃ b ∈ converted, f = duplicateFault b.1) ∧
        ∀ part, outcome = .ok part → ∃ m, part = .map m ∧ m.entries = some converted ∧
          m.capacity = .int entries.length) ∧
      (k.numberKind?.isSome = true → ∃ part, outcome = .ok part) ∧
      ∀ base names, r.IsEnumClass k base → (∀ a ∈ entries, r.IsMember names k a.1) →
        ∃ part, outcome = .ok part := by
  have hdescribe := describe_dict hkey hvalue hhint
  obtain ⟨-, hload, -⟩ := start_ok hstart
  have hexists := exists_slot hstart hfield (by rw [hclassify]; rfl)
  have hslots (slot : Slot) (hslot : slot ∈ p.model.slots) (hname : slot.name = name) :=
    map_slot hstart hfree hfield hdescribe hclassify hkey hvalue hslot hname
  set made := mapOf p.scope (keyCopyOf r k) (Copy.ofType (r.describeClass v)) k v entries with hmade
  have hfills : p.Fills source name (made >>= fun m => .ok (.map m)) := by
    apply fills_of_slots (keepsAttributes hfree) hexists
    intro slot hslot hname
    obtain ⟨keyType, valueType, hcontent, hkeyType, hvalueType, hallocator, hfind, -⟩ :=
      hslots slot hslot hname
    rw [hcontent, hsource]
    exact convert_map hkeyType hvalueType hallocator hfind
  obtain ⟨slot, hslot, hname⟩ := hexists
  obtain ⟨-, -, -, -, -, -, -, hkeyUses, hvalueUses⟩ := hslots slot hslot hname
  have hok : (∃ part, (made >>= fun m => .ok (Part.map m)) = .ok part) ↔
      ∃ converted, AreTaken k v entries converted ∧ AreApart converted := by
    rw [← exists_mapOf_iff hload hkey hvalue hkeyUses hvalueUses htypes]
    constructor
    · rintro ⟨part, hpart⟩
      obtain ⟨m, hm, -⟩ := bind_eq_ok.mp hpart
      exact ⟨m, hm⟩
    · rintro ⟨m, hm⟩
      exact ⟨.map m, bind_eq_ok.mpr ⟨m, hm, rfl⟩⟩
  have hvalues : ∀ a ∈ entries, IsValueOf v a.2 := fun a ha => (htypes a ha).2
  refine ⟨_, hfills, ?_, fun converted htaken => ?_, fun hnumber => ?_,
    fun base names henum hmembers => ?_⟩
  · simp only [← not_areApart_iff, not_not]
    exact hok
  · rw [← not_areApart_iff]
    by_cases h : AreApart converted
    · rw [hmade, mapOf_ok hload hkey hvalue hkeyUses hvalueUses htypes htaken h]
      refine ⟨⟨?_, fun hclash => absurd h hclash⟩, ?_, ?_⟩
      · rintro ⟨f, ⟨⟩⟩
      · rintro f ⟨⟩
      · rintro part ⟨⟩
        exact ⟨_, rfl, rfl, rfl⟩
    · obtain ⟨b, hb, hfail⟩ :=
        mapOf_duplicate hload hkey hvalue hkeyUses hvalueUses htypes htaken h
      rw [hmade, hfail]
      refine ⟨⟨fun _ => h, fun _ => ⟨_, rfl⟩⟩, ?_, ?_⟩
      · rintro f ⟨⟩
        exact ⟨b, hb, rfl⟩
      · rintro part ⟨⟩
  · exact hok.mpr (exists_areTaken_number hnumber hdict hvalues)
  · have hsome : k.enumBase?.isSome = true := by
      rw [henum.1]
      rfl
    rw [hdescribe] at hclassify
    have hwhole : r.HasWholeMembers k :=
      Registry.hasWholeMembers_of_isIntValued henum (isIntValued_of_classify hsome hclassify)
    exact hok.mpr (exists_areTaken_enum henum hwhole hdict hmembers hvalues)

def rank : ClassRef := .defined 0 ⟨"Rank", "ranking", "Rank"⟩ (some .flag)

def roster : ClassRef := .defined 1 ⟨"Roster", "ranking", "Roster"⟩ none

def rankFlags : List (String × Value) := [("LOW", .int 1), ("HIGH", .int 2), ("BOTH", .int 3)]

def rosterRegistry : Registry where
  classes := [
    { label := rank.label
      order := [rank, .enumBase .flag, .enumBase .plain, objectClass]
      body := .enum .flag (membersOf rankFlags)
      collected := none
      attributes := [] },
    { label := roster.label
      order := [roster, objectClass]
      body := .record true [("counts", .generic .dict [.cls rank, .cls (.builtin "int")])]
      collected := some [("counts", .field)]
      attributes := [] }]
  modules := [⟨"ranking", [("Rank", .hint (.cls rank)), ("Roster", .hint (.cls roster))]⟩]

def flag (name : String) (value : Value) : Value := .member rank .flag name value

def rosterSource (entries : List (Value × Value)) (_ : String) : Except Fault Held :=
  .ok ⟨1, .dict entries⟩

theorem declaresField_roster : DeclaresField rosterRegistry roster "counts"
    (.generic .dict [.cls rank, .cls (.builtin "int")]) :=
  ⟨_, rfl, rfl, List.mem_singleton_self "counts", by decide⟩

theorem isEnumClass_rank : rosterRegistry.IsEnumClass rank .flag := by
  refine ⟨rfl, _, rankFlags, membersOf rankFlags, rfl, rfl, rfl, ?_⟩
  simp [rankFlags, Value.IsKept, EnumBase.isInt]

theorem isMember_rank {names : Int → String} {m : Member} (hm : m ∈ rosterRegistry.members rank)
    (hown : m.stands = m.name) : rosterRegistry.IsMember names rank (flag m.name m.value) :=
  .named rfl hm hown

/-- A combination of flags is stored as its number, beside one of them. -/
theorem fills_mapping_roster :
    ∃ p, Pairing.start rosterRegistry {} (.hint (.cls roster)) = .ok (some p) ∧
      ∃ outcome, p.Fills
        (rosterSource [(flag "BOTH" (.int 3), .int 10), (flag "LOW" (.int 1), .int 20)])
        "counts" outcome ∧
        ∃ m, outcome = .ok (.map m) ∧ m.entries = some [(.int 3, .int 10), (.int 1, .int 20)] ∧
          m.capacity = .int 2 := by
  set entries : List (Value × Value) :=
    [(flag "BOTH" (.int 3), .int 10), (flag "LOW" (.int 1), .int 20)] with hentries
  obtain ⟨p, hstart, hfree⟩ := Pairing.exists_start_of_any (r := rosterRegistry) (n := {})
    (v := .hint (.cls roster)) (P := fun p => p.IsCaptureFree rosterRegistry {})
    (by decide +kernel)
  have hlist : rosterRegistry.members rank =
      [⟨"LOW", .int 1, "LOW"⟩, ⟨"HIGH", .int 2, "HIGH"⟩, ⟨"BOTH", .int 3, "BOTH"⟩] := rfl
  have hmembers : ∀ a ∈ entries, rosterRegistry.IsMember (fun _ => "") rank a.1 := by
    simp only [hentries, List.forall_mem_cons]
    exact ⟨isMember_rank (m := ⟨"BOTH", .int 3, "BOTH"⟩) (by simp [hlist]) rfl,
      isMember_rank (m := ⟨"LOW", .int 1, "LOW"⟩) (by simp [hlist]) rfl, by simp⟩
  have htypes : ∀ a ∈ entries, IsValueOf rank a.1 ∧ IsValueOf (.builtin "int") a.2 := by
    simp only [hentries, List.forall_mem_cons]
    exact ⟨⟨⟨_, .member rfl⟩, ⟨_, .int rfl⟩⟩, ⟨⟨_, .member rfl⟩, ⟨_, .int rfl⟩⟩, by simp⟩
  have hsource : rosterSource entries "counts" = .ok ⟨1, .dict entries⟩ := rfl
  obtain ⟨outcome, hfills, -, hmap, -, hflag⟩ := Pairing.fills_mapping hstart
    hfree declaresField_roster (.inl rfl) (by decide)
    (.enum rfl) .int (by simp [AreApart, hentries, flag, Value.equals]) htypes hsource
  have htaken : AreTaken rank (.builtin "int") entries [(.int 3, .int 10), (.int 1, .int 20)] :=
    .cons ⟨.widened rfl rfl, .same (by simp) (by simp)⟩
      (.cons ⟨.widened rfl rfl, .same (by simp) (by simp)⟩ .nil)
  obtain ⟨part, rfl⟩ := hflag .flag _ isEnumClass_rank hmembers
  obtain ⟨-, -, hpart⟩ := hmap _ htaken
  obtain ⟨m, rfl, hm, hcapacity⟩ := hpart part rfl
  exact ⟨p, hstart, _, hfills, m, rfl, hm, hcapacity⟩

/-- No name takes the place of another one, but the constructor does not find the class of the
values under its name. -/
theorem not_all_filled :
    ¬∀ (r : Registry) (p : Pairing) (c k v : ClassRef) (name : String)
      (entries : List (Value × Value)) (source : String → Except Fault Held) (cell : Nat),
      Pairing.start r {} (.hint (.cls c)) = .ok (some p) → p.model.IsApart →
      DeclaresField r c name (.generic .dict [.cls k, .cls v]) →
      classify ((Hint.generic .dict [.cls k, .cls v]).describe r) = some .mapping →
      k.numberKind?.isSome = true → IsValueClass r v → AreApart entries →
      (∀ a ∈ entries, IsValueOf k a.1 ∧ IsValueOf v a.2) →
      source name = .ok ⟨cell, .dict entries⟩ →
      ∃ m, p.Fills source name (.ok (.map m)) := by
  intro hall
  set h : Hint := .generic .dict [.cls (.builtin "int"), .cls hiddenRank] with hh
  set entries : List (Value × Value) := [(.int 5, hiddenMember)] with hentries
  obtain ⟨p, hstart, hapart, honly, hfail⟩ := Pairing.exists_start_of_any (r := hiddenRegistry h)
    (n := {}) (v := .hint (.cls rankedUnit))
    (P := fun p => p.model.IsApart ∧ (∀ slot ∈ p.model.slots, slot.name = "ranks") ∧
      (Record.convert p.model p.scope (rosterSource entries)).toOption.isSome = false)
    (by decide +kernel)
  have hfield : DeclaresField (hiddenRegistry h) rankedUnit "ranks" h :=
    ⟨_, rfl, rfl, List.mem_singleton_self "ranks", by decide⟩
  have htypes : ∀ a ∈ entries, IsValueOf (.builtin "int") a.1 ∧ IsValueOf hiddenRank a.2 := by
    simp only [hentries, List.forall_mem_cons]
    exact ⟨⟨⟨_, .int rfl⟩, ⟨_, .member rfl⟩⟩, by simp⟩
  obtain ⟨m, hfills⟩ := hall _ p rankedUnit (.builtin "int") hiddenRank "ranks" entries
    (rosterSource entries) 1 hstart hapart hfield (by decide) rfl (isValueClass_hiddenRank h)
    (List.pairwise_singleton _ _) htypes rfl
  cases hconvert : Record.convert p.model p.scope (rosterSource entries) with
  | ok record =>
    rw [hconvert] at hfail
    cases hfail
  | error f => cases hfills.eq_error honly hconvert

end StructForge.Struct

import StructForge.Proofs.Struct.TakingOver

/-! # Lists become arrays

The constructor copies a list into an array of the same length, element by element. The copy fails
when there is no room for the array or a whole number does not fit its class, and otherwise the
array holds what its class stores for each element, in order. -/

namespace StructForge.Struct

open Live Container Schema

def storageOf (c : ClassRef) : Storage :=
  match c.numberKind? with
  | some kind => .numbers kind
  | none => .values

section Loop

variable {s : Scope} {copy : Copy} {items ws : List Value} {left i : Nat} {a : FixedArray}
  {b : Buffer} {f : Fault}

def convertItem (s : Scope) (copy : Copy) (b : Buffer) (v : Value) : Except Fault Value :=
  copy.take s v >>= b.storage.keep

theorem convertItem_of_storage {b' : Buffer} (h : b'.storage = b.storage) :
    convertItem s copy b' = convertItem s copy b := by
  unfold convertItem
  rw [h]

theorem fillArray_succ (hi : i < items.length) :
    fillArray s copy (.list items) (left + 1) i a = copy.take s items[i] >>= fun x =>
      a.set (.int i) x >>= fun a => fillArray s copy (.list items) left (i + 1) a := by
  have hitem : (Value.list items).item i = .ok items[i] := by
    simp only [Value.item, List.getElem?_eq_getElem hi]
  rw [fillArray, hitem]
  rfl

theorem fillArray_step (left : Nat) (hb : a.buffer = some b) (hi : i < items.length)
    (hbound : i < b.length) :
    (∀ w, convertItem s copy b items[i] = .ok w →
      ∃ b', fillArray s copy (.list items) (left + 1) i a =
          fillArray s copy (.list items) left (i + 1) { a with buffer := some b' } ∧
        b'.storage = b.storage ∧ b'.length = b.length ∧ b'.elements = b.elements.set i w) ∧
    ∀ f, convertItem s copy b items[i] = .error f →
      fillArray s copy (.list items) (left + 1) i a = .error f := by
  rw [fillArray_succ hi]
  constructor
  · intro w hw
    obtain ⟨x, htake, hkeep⟩ := bind_eq_ok.mp hw
    obtain ⟨b', hset, hrest⟩ := Buffer.set_ok (i := i) hkeep
    refine ⟨b', ?_, hrest⟩
    rw [htake]
    change a.set (.int i) x >>= _ = _
    rw [FixedArray.set_of_lt hb hbound, hset]
    rfl
  · intro f hf
    rcases bind_eq_error.mp hf with htake | ⟨x, htake, hkeep⟩
    · rw [htake]
      rfl
    · rw [htake]
      change a.set (.int i) x >>= _ = _
      rw [FixedArray.set_of_lt hb hbound, Buffer.set_error hkeep]
      rfl

/-- The loop from an index on leaves the elements before it, and converts the items from it on. -/
theorem fillArray_ok (hb : a.buffer = some b) (hlength : b.length = items.length)
    (hleft : left + i = items.length)
    (hitems : (items.drop i).mapM (convertItem s copy b) = .ok ws) :
    ∃ b', fillArray s copy (.list items) left i a = .ok { a with buffer := some b' } ∧
      b'.storage = b.storage ∧ b'.length = b.length ∧ b'.elements = b.elements.take i ++ ws := by
  induction left generalizing i a b ws with
  | zero =>
    rw [List.drop_of_length_le (by omega), List.mapM_nil, pure_eq_ok] at hitems
    obtain rfl := hitems
    refine ⟨b, ?_, rfl, rfl, ?_⟩
    · rw [← hb]
      rfl
    · rw [List.append_nil, List.take_of_length_le (by rw [Buffer.length_elements]; omega)]
  | succ left ih =>
    have hi : i < items.length := by omega
    rw [List.drop_eq_getElem_cons hi] at hitems
    obtain ⟨w, ws', hw, hws, rfl⟩ := mapM_cons_eq_ok.mp hitems
    obtain ⟨b₁, hstep, hstorage, hlength₁, helements⟩ :=
      (fillArray_step left hb hi (by omega)).1 w hw
    rw [← convertItem_of_storage hstorage] at hws
    obtain ⟨b', hfill, hstorage', hlength', helements'⟩ :=
      ih (a := { a with buffer := some b₁ }) rfl (hlength₁.trans hlength) (by omega) hws
    refine ⟨b', hstep.trans hfill, hstorage'.trans hstorage, hlength'.trans hlength₁, ?_⟩
    have hbound : i < b.elements.length := by
      rw [Buffer.length_elements]
      omega
    rw [helements', helements, List.take_add_one, List.take_set_of_le (Nat.le_refl i),
      List.getElem?_set_self hbound]
    simp

/-- The loop fails as the first item that cannot be converted does. -/
theorem fillArray_error (hb : a.buffer = some b) (hlength : b.length = items.length)
    (hleft : left + i = items.length)
    (hitems : (items.drop i).mapM (convertItem s copy b) = .error f) :
    fillArray s copy (.list items) left i a = .error f := by
  induction left generalizing i a b with
  | zero =>
    rw [List.drop_of_length_le (by omega), List.mapM_nil] at hitems
    cases hitems
  | succ left ih =>
    have hi : i < items.length := by omega
    rw [List.drop_eq_getElem_cons hi, List.mapM_cons] at hitems
    rcases bind_eq_error.mp hitems with hfail | ⟨w, hw, hrest⟩
    · exact (fillArray_step left hb hi (by omega)).2 f hfail
    · rcases bind_eq_error.mp hrest with hrest | ⟨ws, -, hpure⟩
      · obtain ⟨b₁, hstep, hstorage, hlength₁, -⟩ :=
          (fillArray_step left hb hi (by omega)).1 w hw
        rw [← convertItem_of_storage hstorage] at hrest
        exact hstep.trans
          (ih (a := { a with buffer := some b₁ }) rfl (hlength₁.trans hlength) (by omega) hrest)
      · cases hpure

end Loop

section Elements

variable {r : Registry} {m : StructModel} {s : Scope} {c : ClassRef} {v w : Value}
  {locals : List String} {items ws : List Value} {e : String}

theorem ofElement_storedClass (hclass : IsValueClass r c) (platform : Platform) :
    Storage.ofElement platform (.hint (.cls (storedClass c))) = .ok (storageOf c) := by
  cases hclass with
  | enum henum => cases c <;> first | rfl | cases henum
  | _ => rfl

/-- An array of a class converts a value of the class to its element, unless it is out of range. -/
theorem convertItem_of_isElement (hload : Scope.load r m = .ok s) (hclass : IsValueClass r c)
    (huses : ∀ u ∈ (Copy.ofType (r.describeClass c)).uses, m.meaning (.body locals) u.1 = u.2)
    (h : IsElement c v w) (n : Nat) :
    (IsOutOfRange c v → ∃ message, convertItem s (Copy.ofType (r.describeClass c))
      (.fresh (storageOf c) n) v = .error ⟨.overflow, message⟩) ∧
    (¬IsOutOfRange c v → convertItem s (Copy.ofType (r.describeClass c))
      (.fresh (storageOf c) n) v = .ok w) := by
  obtain ⟨u, htaken, hu⟩ := exists_isTaken h
  have htake := take_ok hload hclass huses htaken
  have hconvert : convertItem s (Copy.ofType (r.describeClass c)) (.fresh (storageOf c) n) v =
      (storageOf c).keep u := by
    unfold convertItem
    rw [htake, Buffer.storage_fresh]
    rfl
  rw [hconvert]
  unfold storageOf
  rcases hu with ⟨hkind, rfl⟩ | ⟨hkind, rfl⟩
  · obtain ⟨kind, hkind⟩ := Option.isSome_iff_exists.mp hkind
    obtain ⟨hout, hin⟩ := storeAs_of_isElement h hkind
    rw [hkind]
    simp only [Storage.keep_numbers]
    constructor
    · intro hrange
      obtain ⟨message, hfail⟩ := hout hrange
      rw [hfail]
      exact ⟨message, rfl⟩
    · intro hrange
      obtain ⟨x, hx, rfl⟩ := hin hrange
      rw [hx]
      rfl
  · rw [hkind]
    refine ⟨?_, fun _ => rfl⟩
    rintro ⟨kind, i, hkind', -⟩
    rw [hkind] at hkind'
    cases hkind'

end Elements

def arrayOf (s : Scope) (copy : Copy) (c : ClassRef) (items : List Value) :
    Except Fault FixedArray := do
  let a ← FixedArray.create s.registry.platform (.hint (.cls (storedClass c)))
    (.int items.length) (.allocator .persistent)
  fillArray s copy (.list items) items.length 0 a

theorem convert_array {s : Scope} {copy : Copy} {c : ClassRef} {type : String} {items : List Value}
    {cell : Nat} (hvalue : s.value type = .ok (.hint (.cls (storedClass c))))
    (hallocator : s.allocator = .ok (.allocator .persistent))
    (hfind : s.find RuntimeName.array.text = .hint (.cls .array)) :
    (Content.array type copy).convert s (.ok ⟨cell, .list items⟩) (fun _ => .ok ()) =
      arrayOf s copy c items >>= fun a => .ok (.array a) := by
  have harray : s.array type (.ok items.length) =
      FixedArray.create s.registry.platform (.hint (.cls (storedClass c))) (.int items.length)
        (.allocator .persistent) >>= fun a => .ok (.inl a) := by
    simp only [Scope.array, hvalue, hallocator, hfind, bind, Except.bind, pure, Except.pure]
  have hconvert (a : FixedArray) (hmade : s.array type (.ok items.length) = .ok (.inl a)) :
      (Content.array type copy).convert s (.ok ⟨cell, .list items⟩) (fun _ => .ok ()) =
        fillArray s copy (.list items) items.length 0 a >>= fun a => .ok (.array a) := by
    change s.array type (.ok items.length) >>= _ = _
    rw [hmade]
    rfl
  unfold arrayOf
  cases hcreate : FixedArray.create s.registry.platform (.hint (.cls (storedClass c)))
      (.int items.length) (.allocator .persistent) with
  | error f =>
    change s.array type (.ok items.length) >>= _ = _
    rw [harray, hcreate]
    rfl
  | ok a => exact hconvert a (by rw [harray, hcreate]; rfl)

section Outcome

variable {r : Registry} {m : StructModel} {s : Scope} {c : ClassRef} {locals : List String}
  {items ws : List Value} (hload : Scope.load r m = .ok s) (hclass : IsValueClass r c)
  (huses : ∀ u ∈ (Copy.ofType (r.describeClass c)).uses, m.meaning (.body locals) u.1 = u.2)
  (hitems : List.Forall₂ (IsElement c) items ws)

include hclass

theorem arrayOf_unfit (copy : Copy)
    (hroom : ¬FixedArray.HasRoom s.registry.platform (storageOf c) items.length) :
    ∃ f, arrayOf s copy c items = .error f ∧ (f.kind = .outOfMemory ∨ f.kind = .badValue) := by
  obtain ⟨f, hfail, hkind⟩ := FixedArray.create_error (ofElement_storedClass hclass _) hroom
  unfold arrayOf
  rw [hfail]
  exact ⟨f, rfl, hkind⟩

include hload huses hitems

theorem arrayOf_refused (hroom : FixedArray.HasRoom s.registry.platform (storageOf c) items.length)
    (hrange : ∃ v ∈ items, IsOutOfRange c v) :
    ∃ message, arrayOf s (Copy.ofType (r.describeClass c)) c items =
      .error ⟨.overflow, message⟩ := by
  set copy := Copy.ofType (r.describeClass c)
  set fresh := Buffer.fresh (storageOf c) items.length
  have helement : ∀ v ∈ items, ∃ w,
      (IsOutOfRange c v → ∃ message, convertItem s copy fresh v = .error ⟨.overflow, message⟩) ∧
      (¬IsOutOfRange c v → convertItem s copy fresh v = .ok w) := by
    intro v hv
    obtain ⟨w, hpair⟩ := exists_mem_zip_left hitems hv
    have hw := List.forall₂_zip hitems hpair
    exact ⟨w, convertItem_of_isElement hload hclass huses hw items.length⟩
  have hall : ∀ v ∈ items, (∃ w, convertItem s copy fresh v = .ok w) ∨
      ∃ f, convertItem s copy fresh v = .error f ∧ ∃ message, f = ⟨.overflow, message⟩ := by
    intro v hv
    obtain ⟨w, hfail, hok⟩ := helement v hv
    by_cases hout : IsOutOfRange c v
    · obtain ⟨message, hfail⟩ := hfail hout
      exact .inr ⟨_, hfail, message, rfl⟩
    · exact .inl ⟨w, hok hout⟩
  obtain ⟨v, hv, hout⟩ := hrange
  obtain ⟨w, hfail, -⟩ := helement v hv
  obtain ⟨message, hfail⟩ := hfail hout
  obtain ⟨f, hmapM, message, rfl⟩ := exists_mapM_eq_error hall ⟨v, hv, _, hfail⟩
  unfold arrayOf
  rw [FixedArray.create_ok (ofElement_storedClass hclass _) hroom]
  exact ⟨message, fillArray_error (b := fresh) rfl (Buffer.length_fresh ..) rfl hmapM⟩

theorem arrayOf_ok (hroom : FixedArray.HasRoom s.registry.platform (storageOf c) items.length)
    (hrange : ∀ v ∈ items, ¬IsOutOfRange c v) :
    ∃ b, arrayOf s (Copy.ofType (r.describeClass c)) c items =
        .ok ⟨.hint (.cls (storedClass c)), .persistent, some b⟩ ∧
      b.storage = storageOf c ∧ b.length = items.length ∧ b.elements = ws := by
  set copy := Copy.ofType (r.describeClass c)
  set fresh := Buffer.fresh (storageOf c) items.length
  set a : FixedArray := ⟨.hint (.cls (storedClass c)), .persistent, some fresh⟩
  have hlength : fresh.length = items.length := Buffer.length_fresh ..
  have hmapM : items.mapM (convertItem s copy fresh) = .ok ws := by
    refine mapM_eq_ok.mpr (List.forall₂_iff_zip.mpr ⟨hitems.length_eq, fun {v w} hpair => ?_⟩)
    have hw := List.forall₂_zip hitems hpair
    exact (convertItem_of_isElement hload hclass huses hw items.length).2
      (hrange v (List.of_mem_zip hpair).1)
  obtain ⟨b, hfill, hstorage, hlength', helements⟩ :=
    fillArray_ok (a := a) (b := fresh) (i := 0) rfl hlength rfl hmapM
  unfold arrayOf
  rw [FixedArray.create_ok (ofElement_storedClass hclass _) hroom]
  exact ⟨b, hfill, hstorage.trans (Buffer.storage_fresh ..), hlength'.trans hlength, helements⟩

end Outcome

def IsSame (v w : Value) : Prop := w = v ∨ ∃ q, w.numeric? = some q ∧ v.numeric? = some q

/-- An array that holds what its class stores for the items of a list. Read as a list, it is the
same unless its class is one of vectors or of narrow floating-point numbers. -/
structure Mirrors (c : ClassRef) (items : List Value) (a : FixedArray) : Prop where
  length : a.length = .ok items.length
  get : ∀ (i : Nat) (v : Value), items[i]? = some v → ∃ w, a.get (.int i) = .ok w ∧ IsElement c v w
  toList : c ∉ [.vector2, .vector3, .number .float16, .number .float32] →
    ∃ values, a.toList = .ok values ∧ List.Forall₂ IsSame items values

section Mirror

variable {c : ClassRef} {v w : Value} {items : List Value} {b : Buffer} {a : FixedArray}

theorem numeric?_plainValue (x : Number.Scalar) :
    (plainValue x).numeric? = some (Value.scalarExact x) := by
  cases x <;> rfl

theorem isSame_of_isElement (h : IsElement c v w)
    (hexact : c ∉ [.vector2, .vector3, .number .float16, .number .float32]) : IsSame v w := by
  cases h with
  | bool b => exact .inr ⟨_, rfl, rfl⟩
  | int hv => exact .inr ⟨_, rfl, Value.numeric?_of_wholeNumber hv⟩
  | float hv => exact .inr ⟨_, rfl, Value.numeric?_of_realNumber hv⟩
  | number => exact .inl rfl
  | truth b => exact .inr ⟨_, rfl, rfl⟩
  | whole _ hv => exact .inr ⟨_, rfl, Value.numeric?_of_wholeNumber hv⟩
  | @real kind f x hformat hx =>
    right
    cases kind with
    | float16 => simp at hexact
    | float32 => simp at hexact
    | float64 =>
      cases hformat
      rw [Number.Format.round_eq_self hx]
      exact ⟨_, rfl, rfl⟩
    | _ => cases hformat
  | member => exact .inl rfl
  | vector2 => simp at hexact
  | vector3 => simp at hexact

/-- An element of a class of values is the same as a value of its own. -/
theorem isSame_plain (h : IsSame v w) : IsSame v ((storageOf c).plain w) := by
  unfold storageOf
  cases c.numberKind? with
  | none => exact h
  | some kind =>
    cases w with
    | number kind' x =>
      refine .inr ⟨_, numeric?_plainValue x, ?_⟩
      rcases h with rfl | ⟨q, hq, hv⟩
      · rfl
      · exact hv.trans hq.symm
    | _ => exact h

theorem mirrors_of_elements (hb : a.buffer = some b) (hstorage : b.storage = storageOf c)
    (hlength : b.length = items.length)
    (helements : List.Forall₂ (IsElement c) items b.elements) : Mirrors c items a where
  length := by
    unfold FixedArray.length FixedArray.require
    rw [hb, ← hlength]
    rfl
  get i v hv := by
    have hi : i < b.length := by
      rw [hlength]
      exact (List.getElem?_eq_some_iff.mp hv).1
    have hi' : i < b.elements.length := by
      rw [Buffer.length_elements]
      exact hi
    refine ⟨b.elements[i], ?_, ?_⟩
    · rw [FixedArray.get_of_lt hb hi, List.getElem?_eq_getElem hi']
      rfl
    · obtain ⟨hi'', rfl⟩ := List.getElem?_eq_some_iff.mp hv
      exact helements.get hi'' hi'
  toList hexact := by
    refine ⟨b.toList, ?_, ?_⟩
    · unfold FixedArray.toList FixedArray.require
      rw [hb]
      rfl
    · rw [Buffer.toList_eq, List.forall₂_map_right_iff, hstorage]
      exact helements.imp fun _ _ h => isSame_plain (isSame_of_isElement h hexact)

end Mirror

theorem exists_elements {c : ClassRef} {items : List Value} (h : ∀ v ∈ items, IsValueOf c v) :
    ∃ ws, List.Forall₂ (IsElement c) items ws := by
  induction items with
  | nil => exact ⟨[], .nil⟩
  | cons v items ih =>
    obtain ⟨w, hw⟩ := h v List.mem_cons_self
    obtain ⟨ws, hws⟩ := ih fun v hv => h v (List.mem_cons_of_mem _ hv)
    exact ⟨w :: ws, .cons hw hws⟩

theorem Pairing.array_slot {r : Registry} {n : Naming} {c e : ClassRef} {p : Pairing}
    {name : String} {h : Hint} {slot : Slot}
    (hstart : Pairing.start r n (.hint (.cls c)) = .ok (some p)) (hfree : p.IsCaptureFree r n)
    (hfield : DeclaresField r c name h)
    (hdescribe : h.describe r = .mk "list" "builtins" "list" .sequence [r.describeClass e] false)
    (hclassify : classify (h.describe r) = some .sequence) (hclass : IsValueClass r e)
    (hslot : slot ∈ p.model.slots) (hname : slot.name = name) :
    ∃ type, slot.content = .array type (Copy.ofType (r.describeClass e)) ∧
      p.scope.value type = .ok (.hint (.cls (storedClass e))) ∧
      p.scope.allocator = .ok (.allocator .persistent) ∧
      p.scope.find RuntimeName.array.text = .hint (.cls .array) ∧
      ∀ u ∈ (Copy.ofType (r.describeClass e)).uses,
        p.model.meaning (.body p.model.constructorVariables) u.1 = u.2 := by
  obtain ⟨-, hload, -⟩ := start_ok hstart
  obtain ⟨i, asked, d, hsound, htype, hcategory, hcontent, huses⟩ :=
    slot_of_field hstart hfree hfield hslot hname
  rw [htype, hclassify, Option.some.injEq] at hcategory
  rw [hdescribe] at htype
  have hkeeps := ((keepsAttributes hfree).2 slot hslot).2
  generalize slot.content = content at hcontent huses hkeeps
  cases hcontent with
  | @sequence element rest type _ hargs _ _ helement =>
    rw [htype] at hargs
    cases hargs
    obtain ⟨harray, hallocator, htypes, hcopy⟩ := forall_fillUses_array huses
    refine ⟨type, rfl, ?_, Scope.allocator_eq hload hallocator,
      Scope.find_library hload harray rfl, hcopy⟩
    refine Scope.value_element hload hsound hclass helement (hkeeps type List.mem_cons_self)
      (htypes ((splitHead type).1, elementMeaning (r.describeClass e)) ?_)
    simp [typeUses, htype, TypeRef.args]
  | widened hcategory' => rw [← hcategory] at hcategory'; cases hcategory'
  | mapping hcategory' => rw [← hcategory] at hcategory'; cases hcategory'
  | vector3 hcategory' => rw [← hcategory] at hcategory'; cases hcategory'
  | vector2 hcategory' => rw [← hcategory] at hcategory'; cases hcategory'
  | scalar hcategory' => rw [← hcategory] at hcategory'; cases hcategory'

theorem describe_list {r : Registry} {e : ClassRef} {h : Hint} (hclass : IsValueClass r e)
    (hhint : h = .generic .list [.cls e] ∨ h = .capitalGeneric .list [.cls e]) :
    h.describe r = .mk "list" "builtins" "list" .sequence [r.describeClass e] false := by
  have hargs : describeAll r [.cls e] = [r.describeClass e] := by
    rw [describeAll, describeAll, hclass.describe]
  rcases hhint with rfl | rfl
  · rw [Hint.describe, hargs]
  · rw [Hint.describe, hargs]

theorem classify_list {r : Registry} {e : ClassRef} (hclass : IsValueClass r e) :
    classify (.mk "list" "builtins" "list" .sequence [r.describeClass e] false) =
      some .sequence := by
  have hsequence : TypeRef.isSequence
      (.mk "list" "builtins" "list" .sequence [r.describeClass e] false) = true :=
    hclass.isValueType
  simp [classify, classifyBy, rules, hsequence]

/-- A field declared as a list of a class of values becomes an array that mirrors the list. Where
there is room for the array, the constructor fails in the field exactly if a whole number of the
list is out of the range of the class, and it fails with an overflow. -/
theorem Pairing.fills_sequence {r : Registry} {n : Naming} {c e : ClassRef} {p : Pairing}
    {name : String} {h : Hint} {items : List Value} {source : String → Except Fault Held}
    {cell : Nat}
    (hstart : Pairing.start r n (.hint (.cls c)) = .ok (some p)) (hfree : p.IsCaptureFree r n)
    (hfield : DeclaresField r c name h)
    (hhint : h = .generic .list [.cls e] ∨ h = .capitalGeneric .list [.cls e])
    (hclass : IsValueClass r e) (hitems : ∀ v ∈ items, IsValueOf e v)
    (hsource : source name = .ok ⟨cell, .list items⟩) :
    ∃ outcome, p.Fills source name outcome ∧
      (¬FixedArray.HasRoom r.platform (storageOf e) items.length →
        ∃ f, outcome = .error f ∧ (f.kind = .outOfMemory ∨ f.kind = .badValue)) ∧
      (FixedArray.HasRoom r.platform (storageOf e) items.length →
        ((∃ f, outcome = .error f) ↔ ∃ v ∈ items, IsOutOfRange e v) ∧
        (∀ f, outcome = .error f → f.kind = .overflow) ∧
        ∀ part, outcome = .ok part → ∃ a, part = .array a ∧ Mirrors e items a) := by
  have hdescribe := describe_list hclass hhint
  have hclassify : classify (h.describe r) = some .sequence := by
    rw [hdescribe]
    exact classify_list hclass
  obtain ⟨-, hload, -⟩ := start_ok hstart
  obtain ⟨ws, helements⟩ := exists_elements hitems
  have hexists := exists_slot hstart hfield (by rw [hclassify]; rfl)
  have hslots (slot : Slot) (hslot : slot ∈ p.model.slots) (hname : slot.name = name) :=
    array_slot hstart hfree hfield hdescribe hclassify hclass hslot hname
  set copy := Copy.ofType (r.describeClass e)
  refine ⟨arrayOf p.scope copy e items >>= fun a => .ok (.array a),
    fills_of_slots (keepsAttributes hfree) hexists fun slot hslot hname => ?_, ?_⟩
  · obtain ⟨type, hcontent, hvalue, hallocator, hfind, -⟩ := hslots slot hslot hname
    rw [hcontent, hsource]
    exact convert_array hvalue hallocator hfind
  obtain ⟨slot, hslot, hname⟩ := hexists
  obtain ⟨-, -, -, -, -, huses⟩ := hslots slot hslot hname
  rw [← Scope.registry_of_load hload]
  constructor
  · intro hlimit
    obtain ⟨f, hfail, hkind⟩ := arrayOf_unfit (s := p.scope) hclass copy hlimit
    exact ⟨f, by rw [hfail]; rfl, hkind⟩
  · intro hlimit
    by_cases hrange : ∃ v ∈ items, IsOutOfRange e v
    · obtain ⟨message, hfail⟩ := arrayOf_refused hload hclass huses helements hlimit hrange
      rw [hfail]
      refine ⟨⟨fun _ => hrange, fun _ => ⟨_, rfl⟩⟩, ?_, ?_⟩
      · rintro f ⟨⟩
        rfl
      · rintro part ⟨⟩
    · have hrange' : ∀ v ∈ items, ¬IsOutOfRange e v := fun v hv hout => hrange ⟨v, hv, hout⟩
      obtain ⟨b, hok, hstorage, hlength, rfl⟩ :=
        arrayOf_ok hload hclass huses helements hlimit hrange'
      rw [hok]
      refine ⟨⟨?_, fun hout => absurd hout hrange⟩, ?_, ?_⟩
      · rintro ⟨f, ⟨⟩⟩
      · rintro f ⟨⟩
      · rintro part ⟨⟩
        exact ⟨_, rfl, mirrors_of_elements rfl hstorage hlength helements⟩

/-- A class with a list of whole numbers, in a module of its own. -/
def tally : ClassRef := .defined 0 ⟨"Tally", "counting", "Tally"⟩ none

def tallyRegistry : Registry where
  classes := [{
    label := tally.label
    order := [tally, objectClass]
    body := .record true [("counts", .generic .list [.cls (.builtin "int")])]
    collected := some [("counts", .field)]
    attributes := [] }]
  modules := [⟨"counting", [("Tally", .hint (.cls tally))]⟩]

/-- An instance of the class, by its attributes. -/
def tallySource (_ : String) : Except Fault Held := .ok ⟨1, .list [.bool true, .int (2 ^ 63 - 1)]⟩

/-- The largest whole number that fits is stored with a truth value before it. -/
theorem fills_sequence_tally :
    ∃ p, Pairing.start tallyRegistry {} (.hint (.cls tally)) = .ok (some p) ∧
      ∃ outcome, p.Fills tallySource "counts" outcome ∧ ∃ a, outcome = .ok (.array a) ∧
        Mirrors (.builtin "int") [.bool true, .int (2 ^ 63 - 1)] a := by
  obtain ⟨p, hstart, hfree⟩ := Pairing.exists_start_of_any (r := tallyRegistry) (n := {})
    (v := .hint (.cls tally)) (P := fun p => p.IsCaptureFree tallyRegistry {}) (by decide +kernel)
  have hfield : DeclaresField tallyRegistry tally "counts"
      (.generic .list [.cls (.builtin "int")]) :=
    ⟨_, rfl, rfl, by decide, by decide⟩
  have hvalues : ∀ v ∈ [Value.bool true, .int (2 ^ 63 - 1)],
      ∃ i, v.wholeNumber? = some i ∧ Number.Kind.int64.HoldsInt i := by
    simp only [List.forall_mem_cons]
    exact ⟨⟨_, rfl, by decide⟩, ⟨_, rfl, by decide⟩, by simp⟩
  have hrange : ¬∃ v ∈ [Value.bool true, .int (2 ^ 63 - 1)], IsOutOfRange (.builtin "int") v := by
    rintro ⟨v, hv, kind, i, hkind, -, hi, hout⟩
    obtain ⟨j, hj, hholds⟩ := hvalues v hv
    cases hkind
    rw [hj, Option.some.injEq] at hi
    exact hout (hi ▸ hholds)
  have hsource : tallySource "counts" = .ok ⟨1, .list [.bool true, .int (2 ^ 63 - 1)]⟩ := rfl
  obtain ⟨outcome, hfills, -, hfits⟩ := Pairing.fills_sequence hstart hfree hfield
    (.inl rfl) .int (fun v hv => ⟨_, .int (hvalues v hv).choose_spec.1⟩) hsource
  obtain ⟨hfail, -, hok⟩ := hfits (by decide)
  refine ⟨p, hstart, outcome, hfills, ?_⟩
  cases outcome with
  | error f => exact absurd (hfail.mp ⟨f, rfl⟩) hrange
  | ok part =>
    obtain ⟨a, rfl, ha⟩ := hok part rfl
    exact ⟨a, rfl, ha⟩

/-- No name takes the place of another one, but the constructor does not find the class of the
elements under its name. -/
theorem not_all_mirrored :
    ¬∀ (r : Registry) (p : Pairing) (c e : ClassRef) (name : String) (items : List Value)
      (source : String → Except Fault Held) (cell : Nat),
      Pairing.start r {} (.hint (.cls c)) = .ok (some p) → p.model.IsApart →
      DeclaresField r c name (.generic .list [.cls e]) → IsValueClass r e →
      (∀ v ∈ items, IsValueOf e v) →
      FixedArray.HasRoom r.platform (storageOf e) items.length → e.numberKind? = none →
      source name = .ok ⟨cell, .list items⟩ →
      ∃ a, p.Fills source name (.ok (.array a)) := by
  intro hall
  set h : Hint := .generic .list [.cls hiddenRank] with hh
  set source : String → Except Fault Held := fun _ => .ok ⟨1, .list [hiddenMember]⟩ with hsource
  obtain ⟨p, hstart, hapart, honly, hfail⟩ := Pairing.exists_start_of_any (r := hiddenRegistry h)
    (n := {}) (v := .hint (.cls rankedUnit))
    (P := fun p => p.model.IsApart ∧ (∀ slot ∈ p.model.slots, slot.name = "ranks") ∧
      (Record.convert p.model p.scope source).toOption.isSome = false)
    (by decide +kernel)
  have hfield : DeclaresField (hiddenRegistry h) rankedUnit "ranks" h :=
    ⟨_, rfl, rfl, List.mem_singleton_self "ranks", by decide⟩
  have hvalues : ∀ v ∈ [hiddenMember], IsValueOf hiddenRank v := by
    simp only [List.forall_mem_cons]
    exact ⟨⟨_, .member rfl⟩, by simp⟩
  obtain ⟨a, hfills⟩ := hall _ p rankedUnit hiddenRank "ranks" [hiddenMember] source 1 hstart
    hapart hfield (isValueClass_hiddenRank h) hvalues (by decide) rfl rfl
  cases hconvert : Record.convert p.model p.scope source with
  | ok record =>
    rw [hconvert] at hfail
    cases hfail
  | error f => cases hfills.eq_error honly hconvert

end StructForge.Struct

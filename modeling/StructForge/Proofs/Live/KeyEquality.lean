import StructForge.Live.Value
import StructForge.Proofs.Number.Quantity

/-! # Equality of keys

What a key is compared by: the number that it stands for, its text, its name in its class, or what
its components are compared by. Values that can be keys are equal exactly when they are compared by
the same thing. -/

namespace StructForge.Live

open Number

/-- The sorts of keys; keys of two sorts are different. -/
inductive KeySort where
  | absent
  | number
  | text
  | member
  | cls
  | sequence
  | vector2
  | vector3
  deriving DecidableEq

def KeySort.isAtom : KeySort → Bool
  | .sequence | .vector2 | .vector3 => false
  | _ => true

inductive KeyForm where
  | absent
  | number (q : Quantity)
  | text (s : String)
  | member (cls : ClassRef) (name : String)
  | cls (c : ClassRef)
  | tuple (items : List KeyForm)
  | vector2 (x y : KeyForm)
  | vector3 (x y z : KeyForm)

def KeyForm.sort : KeyForm → KeySort
  | .absent => .absent
  | .number _ => .number
  | .text _ => .text
  | .member .. => .member
  | .cls _ => .cls
  | .tuple _ => .sequence
  | .vector2 .. => .vector2
  | .vector3 .. => .vector3

namespace Value

def Exact.quantity? : Exact → Option Quantity
  | .whole i => some (.ratio i)
  | .real x => x.quantity?

/-- Whether a value has no factor of two that its exponent could take. -/
def Exact.IsReduced : Exact → Prop
  | .whole _ => True
  | .real x => x.IsReduced

mutual

/-- What a value is compared by as a key. A number of every kind is compared by the number that it
stands for, and a member of an enum that extends numbers or texts by its value; a vector of
single-precision numbers is compared as the tuple of its components. What has no equal, such as not
a number, has no form. -/
def form? : Value → Option KeyForm
  | .none => some .absent
  | .bool b => some (.number (.ratio (Scalar.ofBool b)))
  | .int i => some (.number (.ratio i))
  | .float x => x.quantity?.map .number
  | .number _ x => (scalarExact x).quantity?.map .number
  | .text s => some (.text s)
  | .member cls base name value =>
    match base with
    | .plain | .flag => some (.member cls name)
    | .int | .intFlag | .str => value.form?
  | .tuple items => (forms? items).map .tuple
  | .single components => (components.mapM Binary.quantity?).map fun qs => .tuple (qs.map .number)
  | .vector2 x y =>
    match x.form?, y.form? with
    | some f, some g => some (.vector2 f g)
    | _, _ => .none
  | .vector3 x y z =>
    match x.form?, y.form?, z.form? with
    | some f, some g, some h => some (.vector3 f g h)
    | _, _, _ => .none
  | .hint (.cls c) => some (.cls c)
  | _ => .none

def forms? : List Value → Option (List KeyForm)
  | [] => some []
  | v :: vs =>
    match v.form?, forms? vs with
    | some f, some fs => some (f :: fs)
    | _, _ => .none

end

def SameKey (v w : Value) : Prop := ∃ f, v.form? = some f ∧ w.form? = some f

/-- The values that can be keys. Numbers are kept in reduced form, and a member of an enum has a
class with the base of the enum, and a number or a text as its value if the base extends these. -/
inductive IsKey : Value → Prop
  | none : IsKey .none
  | bool (b : Bool) : IsKey (.bool b)
  | int (i : Int) : IsKey (.int i)
  | float {x : Binary} (hx : x.IsReduced) : IsKey (.float x)
  | number {kind : Kind} {x : Scalar} (hx : (scalarExact x).IsReduced) : IsKey (.number kind x)
  | text (s : String) : IsKey (.text s)
  | plainMember {cls : ClassRef} (hcls : cls.enumBase? = some .plain) (name : String)
      (value : Value) : IsKey (.member cls .plain name value)
  | flagMember {cls : ClassRef} (hcls : cls.enumBase? = some .flag) (name : String)
      (value : Value) : IsKey (.member cls .flag name value)
  | intMember {cls : ClassRef} (hcls : cls.enumBase? = some .int) (name : String) (i : Int) :
      IsKey (.member cls .int name (.int i))
  | intFlagMember {cls : ClassRef} (hcls : cls.enumBase? = some .intFlag) (name : String)
      (i : Int) : IsKey (.member cls .intFlag name (.int i))
  | strMember {cls : ClassRef} (hcls : cls.enumBase? = some .str) (name s : String) :
      IsKey (.member cls .str name (.text s))
  | tuple {items : List Value} (hitems : ∀ v ∈ items, IsKey v) : IsKey (.tuple items)
  | single {components : List Binary} (hcomponents : ∀ x ∈ components, x.IsReduced) :
      IsKey (.single components)
  | vector2 {x y : Value} (hx : IsKey x) (hy : IsKey y) : IsKey (.vector2 x y)
  | vector3 {x y z : Value} (hx : IsKey x) (hy : IsKey y) (hz : IsKey z) : IsKey (.vector3 x y z)
  | cls (c : ClassRef) : IsKey (.hint (.cls c))

def keySort : Value → KeySort
  | .bool _ | .int _ | .float _ | .number .. => .number
  | .text _ => .text
  | .member _ base _ _ =>
    match base with
    | .plain | .flag => .member
    | .int | .intFlag => .number
    | .str => .text
  | .tuple _ | .single _ => .sequence
  | .vector2 .. => .vector2
  | .vector3 .. => .vector3
  | .hint _ => .cls
  | _ => .absent

variable {v w u : Value} {vs ws : List Value} {f : KeyForm} {fs : List KeyForm} {a b : Exact}
  {x : Binary} {xs ys : List Binary} {s t : String} {cls cls' : ClassRef} {base base' : EnumBase}
  {name name' : String} {i : Int}

theorem SameKey.symm (h : v.SameKey w) : w.SameKey v := by
  obtain ⟨f, hv, hw⟩ := h
  exact ⟨f, hw, hv⟩

theorem SameKey.trans (h : v.SameKey w) (h' : w.SameKey u) : v.SameKey u := by
  obtain ⟨f, hv, hw⟩ := h
  obtain ⟨g, hw', hu⟩ := h'
  rw [hw, Option.some.injEq] at hw'
  exact ⟨f, hv, by rw [hu, hw']⟩

theorem name_beq_eq_false (hcls : cls.enumBase? = some base) (hcls' : cls'.enumBase? = some base')
    (hne : base ≠ base') : (cls == cls' && name == name') = false := by
  have hdiff : cls ≠ cls' := by
    rintro rfl
    rw [hcls, Option.some.injEq] at hcls'
    exact hne hcls'
  simp [hdiff]

theorem IsKey.equals_eq_false (hv : v.IsKey) (hw : w.IsKey) (h : v.keySort ≠ w.keySort) :
    v.equals w = false := by
  -- A member of a number or text and one that is neither are compared by their classes and names.
  cases hv <;> cases hw <;> first
    | exact absurd rfl h
    | rfl
    | exact name_beq_eq_false (by assumption) (by assumption) (by decide)

/-! ## Numbers -/

theorem Exact.equals_iff (ha : a.IsReduced) (hb : b.IsReduced) :
    a.equals b = true ↔ ∃ q, a.quantity? = some q ∧ b.quantity? = some q := by
  have hreal (x : Binary) (i : Int) (hx : x.IsReduced) : (x.toInt? == some i) = true ↔
      x.quantity? = some (.ratio i) := by
    rw [beq_iff_eq]
    exact Binary.toInt?_eq_some hx
  cases a with
  | whole i =>
    cases b with
    | whole j =>
      rw [equals, beq_iff_eq]
      constructor
      · rintro rfl
        exact ⟨_, rfl, rfl⟩
      · rintro ⟨q, hq, hq'⟩
        cases hq
        rw [quantity?, Option.some.injEq, Quantity.ratio.injEq, Int.cast_inj] at hq'
        exact hq'.symm
    | real y =>
      rw [equals, hreal y i hb]
      simp [quantity?]
  | real x =>
    cases b with
    | whole j =>
      rw [equals, hreal x j ha]
      simp [quantity?]
    | real y => exact Binary.equals_iff ha hb

theorem IsKey.exists_numeric (hv : v.IsKey) (hsort : v.keySort = .number) :
    ∃ a, v.numeric? = some a ∧ a.IsReduced ∧ v.form? = a.quantity?.map .number := by
  cases hv with
  | bool | int | intMember | intFlagMember => exact ⟨_, rfl, trivial, rfl⟩
  | float hx => exact ⟨_, rfl, hx, rfl⟩
  | number hx => exact ⟨_, rfl, hx, rfl⟩
  | _ => cases hsort

theorem IsKey.equals_of_numeric (hv : v.IsKey) (hw : w.IsKey) (ha : v.numeric? = some a)
    (hb : w.numeric? = some b) : v.equals w = a.equals b := by
  cases hv <;> cases ha <;> cases hw <;> cases hb <;> rfl

theorem IsKey.equals_iff_of_number (hv : v.IsKey) (hw : w.IsKey) (hsort : v.keySort = .number)
    (hsort' : w.keySort = .number) : v.equals w = true ↔ v.SameKey w := by
  obtain ⟨a, ha, hreduced, hform⟩ := hv.exists_numeric hsort
  obtain ⟨b, hb, hreduced', hform'⟩ := hw.exists_numeric hsort'
  rw [hv.equals_of_numeric hw ha hb, Exact.equals_iff hreduced hreduced', SameKey, hform, hform']
  constructor
  · rintro ⟨q, hq, hq'⟩
    exact ⟨.number q, by rw [hq]; rfl, by rw [hq']; rfl⟩
  · rintro ⟨f, hf, hf'⟩
    obtain ⟨q, hq, rfl⟩ := Option.map_eq_some_iff.mp hf
    obtain ⟨q', hq', hsame⟩ := Option.map_eq_some_iff.mp hf'
    cases hsame
    exact ⟨q, hq, hq'⟩

/-! ## Tuples and vectors of single-precision numbers -/

theorem forms?_cons_eq_some : forms? (v :: vs) = some fs ↔
    ∃ f gs, v.form? = some f ∧ forms? vs = some gs ∧ f :: gs = fs := by
  rw [forms?]
  cases v.form? <;> cases forms? vs <;> simp

/-- Lists of keys are equal when they are compared by the same, item by item. -/
theorem allEqual_iff (hitems : ∀ v ∈ vs, ∀ w : Value, w.IsKey → (v.equals w = true ↔ v.SameKey w))
    (hws : ∀ w ∈ ws, w.IsKey) :
    allEqual vs ws = true ↔ ∃ fs, forms? vs = some fs ∧ forms? ws = some fs := by
  induction vs generalizing ws with
  | nil =>
    cases ws with
    | nil => simp [allEqual, forms?]
    | cons w ws =>
      refine iff_of_false (by simp [allEqual]) ?_
      rintro ⟨fs, hfs, hfs'⟩
      cases hfs
      obtain ⟨_, _, -, -, h⟩ := forms?_cons_eq_some.mp hfs'
      cases h
  | cons v vs ih =>
    cases ws with
    | nil =>
      refine iff_of_false (by simp [allEqual]) ?_
      rintro ⟨fs, hfs, hfs'⟩
      cases hfs'
      obtain ⟨_, _, -, -, h⟩ := forms?_cons_eq_some.mp hfs
      cases h
    | cons w ws =>
      have hhead := hitems v List.mem_cons_self w (hws w List.mem_cons_self)
      have hrest := ih (fun u hu => hitems u (List.mem_cons_of_mem _ hu))
        fun u hu => hws u (List.mem_cons_of_mem _ hu)
      rw [allEqual, Bool.and_eq_true, hhead, hrest]
      constructor
      · rintro ⟨⟨f, hf, hf'⟩, gs, hgs, hgs'⟩
        exact ⟨f :: gs, forms?_cons_eq_some.mpr ⟨f, gs, hf, hgs, rfl⟩,
          forms?_cons_eq_some.mpr ⟨f, gs, hf', hgs', rfl⟩⟩
      · rintro ⟨fs, hfs, hfs'⟩
        obtain ⟨f, gs, hf, hgs, rfl⟩ := forms?_cons_eq_some.mp hfs
        obtain ⟨f', gs', hf', hgs', hsame⟩ := forms?_cons_eq_some.mp hfs'
        cases hsame
        exact ⟨⟨f, hf, hf'⟩, gs, hgs, hgs'⟩

theorem IsKey.float_equals (hw : w.IsKey) : (Value.float x).equals w =
    match w.numeric? with
    | some b => (Exact.real x).equals b
    | .none => false := by
  cases hw <;> rfl

theorem IsKey.equals_float (hv : v.IsKey) : v.equals (.float x) =
    match v.numeric? with
    | some a => a.equals (.real x)
    | .none => false := by
  cases hv <;> rfl

theorem singleEqual_eq_allEqual (hws : ∀ w ∈ ws, w.IsKey) :
    singleEqual xs ws = allEqual (xs.map .float) ws := by
  induction xs generalizing ws with
  | nil => cases ws <;> rfl
  | cons x xs ih =>
    cases ws with
    | nil => rfl
    | cons w ws =>
      have hhead := (hws w List.mem_cons_self).float_equals (x := x)
      have hrest := ih fun u hu => hws u (List.mem_cons_of_mem _ hu)
      exact congrArg₂ and hhead.symm hrest

theorem equalsSingle_eq_allEqual (hvs : ∀ v ∈ vs, v.IsKey) :
    equalsSingle vs ys = allEqual vs (ys.map .float) := by
  induction vs generalizing ys with
  | nil => cases ys <;> rfl
  | cons v vs ih =>
    cases ys with
    | nil => rfl
    | cons y ys =>
      have hhead := (hvs v List.mem_cons_self).equals_float (x := y)
      have hrest : equalsSingle vs ys = allEqual vs (ys.map .float) :=
        ih fun u hu => hvs u (List.mem_cons_of_mem _ hu)
      exact congrArg₂ and hhead.symm hrest

theorem zip_all_equals_eq_allEqual :
    (xs.length == ys.length && (xs.zip ys).all fun (x, y) => x.equals y) =
      allEqual (xs.map .float) (ys.map .float) := by
  induction xs generalizing ys with
  | nil => cases ys <;> rfl
  | cons x xs ih =>
    cases ys with
    | nil => rfl
    | cons y ys =>
      have hhead : (Value.float x).equals (.float y) = x.equals y := rfl
      rw [List.map_cons, List.map_cons, allEqual, ← ih, hhead, List.zip_cons_cons, List.all_cons,
        List.length_cons, List.length_cons, Bool.and_left_comm]
      simp

theorem forms?_map_float (xs : List Binary) :
    forms? (xs.map .float) = (xs.mapM Binary.quantity?).map (List.map .number) := by
  induction xs with
  | nil => rfl
  | cons x xs ih =>
    rw [List.map_cons, forms?, ih, form?, List.mapM_cons]
    cases x.quantity? <;> cases xs.mapM Binary.quantity? <;> rfl

/-- A vector of single-precision numbers is compared as the tuple of its components. -/
theorem form?_single (xs : List Binary) :
    (Value.single xs).form? = (Value.tuple (xs.map .float)).form? := by
  rw [form?, form?, forms?_map_float, Option.map_map]
  rfl

theorem isKey_of_mem_map_float (hxs : ∀ x ∈ xs, x.IsReduced) :
    ∀ v ∈ xs.map Value.float, v.IsKey := by
  intro v hv
  obtain ⟨x, hx, rfl⟩ := List.mem_map.mp hv
  exact .float (hxs x hx)

/-- A vector of single-precision numbers equals what the tuple of its components equals. -/
theorem IsKey.single_equals (hxs : ∀ x ∈ xs, x.IsReduced) (hw : w.IsKey) :
    (Value.single xs).equals w = (Value.tuple (xs.map .float)).equals w := by
  cases hw with
  | tuple hws => exact singleEqual_eq_allEqual hws
  | single =>
    exact zip_all_equals_eq_allEqual.trans
      (equalsSingle_eq_allEqual (isKey_of_mem_map_float hxs)).symm
  | _ => rfl

/-- What equals a vector of single-precision numbers equals the tuple of its components. -/
theorem tuple_equals_single (hvs : ∀ v ∈ vs, v.IsKey) :
    (Value.tuple vs).equals (.single ys) = (Value.tuple vs).equals (.tuple (ys.map .float)) :=
  equalsSingle_eq_allEqual hvs

theorem equals_iff_of_tuple (hvs : ∀ v ∈ vs, v.IsKey)
    (hitems : ∀ v ∈ vs, ∀ w : Value, w.IsKey → (v.equals w = true ↔ v.SameKey w)) (hw : w.IsKey)
    (hsort : w.keySort = .sequence) :
    (Value.tuple vs).equals w = true ↔ (Value.tuple vs).SameKey w := by
  have htuple {ws : List Value} (hws : ∀ w ∈ ws, w.IsKey) :
      (Value.tuple vs).equals (.tuple ws) = true ↔ (Value.tuple vs).SameKey (.tuple ws) := by
    change allEqual vs ws = true ↔ _
    rw [allEqual_iff hitems hws, SameKey, form?, form?]
    constructor
    · rintro ⟨fs, hfs, hfs'⟩
      exact ⟨.tuple fs, by rw [hfs]; rfl, by rw [hfs']; rfl⟩
    · rintro ⟨f, hf, hf'⟩
      obtain ⟨fs, hfs, rfl⟩ := Option.map_eq_some_iff.mp hf
      obtain ⟨fs', hfs', hsame⟩ := Option.map_eq_some_iff.mp hf'
      cases hsame
      exact ⟨fs, hfs, hfs'⟩
  cases hw with
  | tuple hws => exact htuple hws
  | single hys =>
    rw [tuple_equals_single hvs, SameKey, form?_single]
    exact htuple (isKey_of_mem_map_float hys)
  | _ => cases hsort

/-! ## All keys -/

theorem IsKey.sort_of_form? (hv : v.IsKey) (hf : v.form? = some f) : f.sort = v.keySort := by
  cases hv with
  | float | number | tuple | single =>
    obtain ⟨_, -, rfl⟩ := Option.map_eq_some_iff.mp hf
    rfl
  | vector2 | vector3 =>
    unfold form? at hf
    split at hf
    · cases hf
      rfl
    · cases hf
  | _ =>
    cases hf
    rfl

theorem SameKey.sort_eq (h : v.SameKey w) (hv : v.IsKey) (hw : w.IsKey) :
    v.keySort = w.keySort := by
  obtain ⟨f, hf, hf'⟩ := h
  rw [← hv.sort_of_form? hf, ← hw.sort_of_form? hf']

theorem IsKey.equals_iff_of_sort (hv : v.IsKey) (hw : w.IsKey)
    (h : v.keySort = w.keySort → (v.equals w = true ↔ v.SameKey w)) :
    v.equals w = true ↔ v.SameKey w := by
  by_cases hsort : v.keySort = w.keySort
  · exact h hsort
  · rw [hv.equals_eq_false hw hsort]
    exact iff_of_false Bool.false_ne_true fun hsame => hsort (hsame.sort_eq hv hw)

theorem IsKey.equals_iff_of_text (hv : v.IsKey) (hw : w.IsKey) (hsort : v.keySort = .text)
    (hsort' : w.keySort = .text) : v.equals w = true ↔ v.SameKey w := by
  have htext {u : Value} (hu : u.IsKey) (h : u.keySort = .text) :
      ∃ s, u.text? = some s ∧ u.form? = some (.text s) := by
    cases hu with
    | text | strMember => exact ⟨_, rfl, rfl⟩
    | _ => cases h
  obtain ⟨s, hs, hform⟩ := htext hv hsort
  obtain ⟨t, ht, hform'⟩ := htext hw hsort'
  have hequals : v.equals w = (s == t) := by
    cases hv <;> cases hs <;> cases hw <;> cases ht <;> rfl
  rw [hequals, beq_iff_eq, SameKey, hform, hform']
  constructor
  · rintro rfl
    exact ⟨_, rfl, rfl⟩
  · rintro ⟨f, hf, hf'⟩
    cases hf
    cases hf'
    rfl

theorem IsKey.equals_iff_of_member (hv : v.IsKey) (hw : w.IsKey) (hsort : v.keySort = .member)
    (hsort' : w.keySort = .member) : v.equals w = true ↔ v.SameKey w := by
  have hmember {u : Value} (hu : u.IsKey) (h : u.keySort = .member) :
      ∃ cls base name value, u = .member cls base name value ∧ (base = .plain ∨ base = .flag) := by
    cases hu with
    | plainMember hcls name value => exact ⟨_, _, _, _, rfl, .inl rfl⟩
    | flagMember hcls name value => exact ⟨_, _, _, _, rfl, .inr rfl⟩
    | _ => cases h
  obtain ⟨cls, base, name, value, rfl, hbase⟩ := hmember hv hsort
  obtain ⟨cls', base', name', value', rfl, hbase'⟩ := hmember hw hsort'
  have hequals : (Value.member cls base name value).equals (.member cls' base' name' value') =
      (cls == cls' && name == name') := by
    rcases hbase with rfl | rfl <;> rcases hbase' with rfl | rfl <;> rfl
  have hform {cls : ClassRef} {base : EnumBase} {name : String} {value : Value}
      (h : base = .plain ∨ base = .flag) :
      (Value.member cls base name value).form? = some (.member cls name) := by
    rcases h with rfl | rfl <;> rfl
  rw [hequals, Bool.and_eq_true, beq_iff_eq, beq_iff_eq, SameKey, hform hbase, hform hbase']
  constructor
  · rintro ⟨rfl, rfl⟩
    exact ⟨_, rfl, rfl⟩
  · rintro ⟨f, hf, hf'⟩
    cases hf
    cases hf'
    exact ⟨rfl, rfl⟩

theorem IsKey.equals_iff_of_cls (hv : v.IsKey) (hw : w.IsKey) (hsort : v.keySort = .cls)
    (hsort' : w.keySort = .cls) : v.equals w = true ↔ v.SameKey w := by
  have hcls {u : Value} (hu : u.IsKey) (h : u.keySort = .cls) : ∃ c, u = .hint (.cls c) := by
    cases hu with
    | cls c => exact ⟨c, rfl⟩
    | _ => cases h
  obtain ⟨c, rfl⟩ := hcls hv hsort
  obtain ⟨c', rfl⟩ := hcls hw hsort'
  change (c == c') = true ↔ _
  rw [beq_iff_eq]
  constructor
  · rintro rfl
    exact ⟨_, rfl, rfl⟩
  · rintro ⟨f, hf, hf'⟩
    cases hf
    cases hf'
    rfl

theorem IsKey.equals_iff_of_atom (hv : v.IsKey) (hw : w.IsKey) (hatom : v.keySort.isAtom = true) :
    v.equals w = true ↔ v.SameKey w := by
  refine hv.equals_iff_of_sort hw fun hsame => ?_
  cases hsort : v.keySort <;> rw [hsort] at hsame hatom
  case absent =>
    cases hv <;> cases hsort
    cases hw <;> cases hsame
    exact iff_of_true rfl ⟨_, rfl, rfl⟩
  case number => exact hv.equals_iff_of_number hw hsort hsame.symm
  case text => exact hv.equals_iff_of_text hw hsort hsame.symm
  case member => exact hv.equals_iff_of_member hw hsort hsame.symm
  case cls => exact hv.equals_iff_of_cls hw hsort hsame.symm
  all_goals cases hatom

theorem vector2_sameKey {x y x' y' : Value} : (Value.vector2 x y).SameKey (.vector2 x' y') ↔
    x.SameKey x' ∧ y.SameKey y' := by
  unfold SameKey
  rw [form?, form?]
  constructor
  · rintro ⟨f, hf, hf'⟩
    split at hf <;> cases hf
    split at hf' <;> cases hf'
    exact ⟨⟨_, ‹_›, ‹_›⟩, _, ‹_›, ‹_›⟩
  · rintro ⟨⟨f, hf, hf'⟩, g, hg, hg'⟩
    exact ⟨.vector2 f g, by rw [hf, hg], by rw [hf', hg']⟩

theorem vector3_sameKey {x y z x' y' z' : Value} :
    (Value.vector3 x y z).SameKey (.vector3 x' y' z') ↔
      x.SameKey x' ∧ y.SameKey y' ∧ z.SameKey z' := by
  unfold SameKey
  rw [form?, form?]
  constructor
  · rintro ⟨f, hf, hf'⟩
    split at hf <;> cases hf
    split at hf' <;> cases hf'
    exact ⟨⟨_, ‹_›, ‹_›⟩, ⟨_, ‹_›, ‹_›⟩, _, ‹_›, ‹_›⟩
  · rintro ⟨⟨f, hf, hf'⟩, ⟨g, hg, hg'⟩, h, hh, hh'⟩
    exact ⟨.vector3 f g h, by rw [hf, hg, hh], by rw [hf', hg', hh']⟩

theorem IsKey.equals_iff (hv : v.IsKey) (hw : w.IsKey) : v.equals w = true ↔ v.SameKey w := by
  induction hv generalizing w with
  | none => exact equals_iff_of_atom .none hw rfl
  | bool b => exact equals_iff_of_atom (.bool b) hw rfl
  | int i => exact equals_iff_of_atom (.int i) hw rfl
  | float hx => exact equals_iff_of_atom (.float hx) hw rfl
  | number hx => exact equals_iff_of_atom (.number hx) hw rfl
  | text s => exact equals_iff_of_atom (.text s) hw rfl
  | plainMember hcls name value => exact equals_iff_of_atom (.plainMember hcls name value) hw rfl
  | flagMember hcls name value => exact equals_iff_of_atom (.flagMember hcls name value) hw rfl
  | intMember hcls name i => exact equals_iff_of_atom (.intMember hcls name i) hw rfl
  | intFlagMember hcls name i => exact equals_iff_of_atom (.intFlagMember hcls name i) hw rfl
  | strMember hcls name s => exact equals_iff_of_atom (.strMember hcls name s) hw rfl
  | cls c => exact equals_iff_of_atom (.cls c) hw rfl
  | tuple hitems ih =>
    exact equals_iff_of_sort (.tuple hitems) hw fun hsort =>
      equals_iff_of_tuple hitems (fun v hv w hw => ih v hv hw) hw hsort.symm
  | single hxs =>
    refine equals_iff_of_sort (.single hxs) hw fun hsort => ?_
    rw [hw.single_equals hxs, SameKey, form?_single]
    refine equals_iff_of_tuple (isKey_of_mem_map_float hxs) (fun v hv w hw => ?_) hw hsort.symm
    obtain ⟨x, hx, rfl⟩ := List.mem_map.mp hv
    exact equals_iff_of_atom (.float (hxs x hx)) hw rfl
  | vector2 hx hy ihx ihy =>
    refine equals_iff_of_sort (.vector2 hx hy) hw fun hsort => ?_
    cases hw <;> cases hsort
    rename_i hx' hy'
    rw [vector2_sameKey, equals, Bool.and_eq_true, ihx hx', ihy hy']
  | vector3 hx hy hz ihx ihy ihz =>
    refine equals_iff_of_sort (.vector3 hx hy hz) hw fun hsort => ?_
    cases hw <;> cases hsort
    rename_i hx' hy' hz'
    rw [vector3_sameKey, equals, Bool.and_eq_true, Bool.and_eq_true, ihx hx', ihy hy', ihz hz',
      and_assoc]

end Value

end StructForge.Live

import StructForge.Container.FixedArray
import StructForge.Proofs.Number.Exactness
import StructForge.Proofs.Steps

/-! # Elements of arrays

What an array stores for a value depends on the class of its elements. A whole number is stored
exactly or refused, a floating-point number is rounded to the format of the class, and a value of no
class of numbers is stored as it is. -/

namespace StructForge.Live

open Number

/-- The whole number of unbounded size that a value is: truth values and members of enums of whole
numbers are some as well. -/
def Value.wholeNumber? : Value → Option Int
  | .bool b => some (Scalar.ofBool b)
  | .int i => some i
  | .member _ base _ (.int i) => if base.isInt then some i else .none
  | _ => .none

def Value.realNumber? : Value → Option Binary
  | .float x => some x
  | .number .float64 (.float x) => some x
  | _ => .none

def ClassRef.numberKind? : ClassRef → Option Kind
  | .builtin "bool" => some .bool
  | .builtin "int" => some .int64
  | .builtin "float" => some .float64
  | .number kind => some kind
  | _ => none

theorem Value.toInt_of_wholeNumber {v : Value} {i : Int} (h : v.wholeNumber? = some i) :
    v.toInt = .ok i := by
  unfold wholeNumber? at h
  split at h
  · cases h
    rfl
  · cases h
    rfl
  · rename_i base _ j
    split at h
    · cases h
      cases base <;> first | rfl | contradiction
    · cases h
  · cases h

theorem Value.numeric?_of_wholeNumber {v : Value} {i : Int} (h : v.wholeNumber? = some i) :
    v.numeric? = some (.whole i) := by
  unfold wholeNumber? at h
  split at h
  · cases h
    rfl
  · cases h
    rfl
  · rename_i hbase
    split at h
    · rename_i hint
      cases h
      unfold numeric?
      rw [if_pos hint]
      rfl
    · cases h
  · cases h

theorem Value.numeric?_of_realNumber {v : Value} {x : Binary} (h : v.realNumber? = some x) :
    v.numeric? = some (.real x) := by
  unfold realNumber? at h
  split at h
  · cases h
    rfl
  · cases h
    rfl
  · cases h

theorem Value.unhashable?_of_wholeNumber {v : Value} {i : Int} (h : v.wholeNumber? = some i) :
    v.unhashable? = .none := by
  cases v <;> first | rfl | cases h

theorem Value.unhashable?_of_realNumber {v : Value} {x : Binary} (h : v.realNumber? = some x) :
    v.unhashable? = .none := by
  cases v <;> first | rfl | cases h

end StructForge.Live

namespace StructForge.Container

open Live Number

/-- The number of single precision that a component of a vector becomes: whole numbers are taken as
doubles first. -/
inductive IsComponent : Value → Binary → Prop
  | real {v : Value} {x : Binary} (hv : v.realNumber? = some x) :
      IsComponent v (Format.single.round x)
  | whole {i : Int} {x : Binary} (hx : double? i = some x) :
      IsComponent (.int i) (Format.single.round x)

/-- What an array stores for a value of a class of values. Whether a whole number fits the class is
left open. -/
inductive IsElement : ClassRef → Value → Value → Prop
  | bool (b : Bool) : IsElement (.builtin "bool") (.bool b) (.number .bool (.bool b))
  | int {v : Value} {i : Int} (hv : v.wholeNumber? = some i) :
      IsElement (.builtin "int") v (.number .int64 (.int i))
  | float {v : Value} {x : Binary} (hv : v.realNumber? = some x) (hx : Format.double.Holds x) :
      IsElement (.builtin "float") v (.number .float64 (.float x))
  | number {kind : Kind} {x : Scalar} (hx : kind.Holds x) :
      IsElement (.number kind) (.number kind x) (.number kind x)
  | truth (b : Bool) : IsElement (.number .bool) (.bool b) (.number .bool (.bool b))
  | whole {kind : Kind} {v : Value} {i : Int} (hkind : kind.range?.isSome = true)
      (hv : v.wholeNumber? = some i) : IsElement (.number kind) v (.number kind (.int i))
  | real {kind : Kind} {f : Format} {x : Binary} (hkind : kind.format? = some f)
      (hx : Format.double.Holds x) :
      IsElement (.number kind) (.float x) (.number kind (.float (f.round x)))
  | member {c cls : ClassRef} {base : EnumBase} {name : String} {value : Value}
      (hc : c.enumBase?.isSome = true) :
      IsElement c (.member cls base name value) (.member cls base name value)
  | vector2 {x y : Value} {a b : Binary} (hx : IsComponent x a) (hy : IsComponent y b) :
      IsElement .vector2 (.vector2 x y) (.single [a, b])
  | vector3 {x y z : Value} {a b c : Binary} (hx : IsComponent x a) (hy : IsComponent y b)
      (hz : IsComponent z c) : IsElement .vector3 (.vector3 x y z) (.single [a, b, c])

/-- Whether a whole number lies outside the numbers that its class is stored as. -/
def IsOutOfRange (c : ClassRef) (v : Value) : Prop :=
  ∃ kind i, c.numberKind? = some kind ∧ kind.range?.isSome = true ∧ v.wholeNumber? = some i ∧
    ¬kind.HoldsInt i

section Store

variable {kind : Kind} {v w : Value} {i : Int} {x : Binary} {f : Format} {c : ClassRef}

theorem checkedInt_of_holds (h : kind.HoldsInt i) : checkedInt kind i = .ok i := by
  unfold Kind.HoldsInt at h
  unfold checkedInt
  split at h
  · rename_i low count hrange
    rw [hrange]
    simp [h.1, h.2]
  · cases h

/-- A whole number that does not fit is refused. -/
theorem checkedInt_of_not_holds (hkind : kind.range?.isSome = true) (h : ¬kind.HoldsInt i) :
    ∃ message, checkedInt kind i = .error ⟨.overflow, message⟩ := by
  obtain ⟨⟨low, count⟩, hrange⟩ := Option.isSome_iff_exists.mp hkind
  unfold Kind.HoldsInt at h
  rw [hrange] at h
  have hout : (decide (low ≤ i) && decide (i < low + count)) = false := by
    rw [Bool.and_eq_false_iff, decide_eq_false_iff_not, decide_eq_false_iff_not]
    exact not_and_or.mp h
  have hrefused (held : Bool) (message : String) :
      ∃ shown, (if held then .error ⟨.overflow, message⟩ else .error tooLong : Except Fault Int) =
        .error ⟨.overflow, shown⟩ := by
    cases held <;> exact ⟨_, rfl⟩
  unfold checkedInt
  rw [hrange]
  simp only [Option.getD_some, hout, Bool.false_eq_true, if_false]
  exact hrefused _ _

theorem storeAs_of_wholeNumber (hkind : kind.range?.isSome = true) (hv : v.wholeNumber? = some i) :
    storeAs kind v = checkedInt kind i >>= fun j => .ok (.int j) := by
  have htoInt := Value.toInt_of_wholeNumber hv
  have hformat : kind.format? = none := by
    cases kind <;> first | rfl | exact absurd hkind (by decide)
  have hbool : kind ≠ .bool := by
    rintro rfl
    exact absurd hkind (by decide)
  unfold storeAs
  split
  · cases hv
  · rw [hformat]
    split
    · contradiction
    · contradiction
    · rw [htoInt]
      rfl

theorem storeAs_of_realNumber (hv : v.realNumber? = some x) (hx : Format.double.Holds x) :
    storeAs .float64 v = .ok (.float x) := by
  have hround : Format.double.round x = x := Format.round_eq_self hx
  unfold Value.realNumber? at hv
  split at hv
  · cases hv
    change Except.ok (Scalar.float (Format.double.round x)) = _
    rw [hround]
  · cases hv
    change Except.ok (Scalar.float (Format.double.round x)) = _
    rw [hround]
  · cases hv

theorem component_of_isComponent {a : Binary} (h : IsComponent v a) :
    component .single v = .ok a ∧ isSequence v = false := by
  cases h with
  | real hv =>
    unfold Value.realNumber? at hv
    split at hv
    · cases hv
      exact ⟨rfl, rfl⟩
    · cases hv
      exact ⟨rfl, rfl⟩
    · cases hv
  | @whole i x hx =>
    refine ⟨?_, rfl⟩
    have hfloat : (Value.int i).toFloat = .ok x := by
      unfold Value.toFloat doubleOf
      rw [hx]
    change (notSequence (.int i) (Value.int i).toFloat >>= fun y => .ok (Format.single.round y)) = _
    rw [hfloat]
    rfl

theorem ClassRef.numberKind?_of_enum (hc : c.enumBase?.isSome = true) : c.numberKind? = none := by
  cases c <;> first | rfl | cases hc

theorem not_isOutOfRange (hv : v.wholeNumber? = none) : ¬IsOutOfRange c v := by
  rintro ⟨kind, i, -, -, hi, -⟩
  rw [hv] at hi
  cases hi

theorem not_isOutOfRange_of_range (hkind : c.numberKind? = some kind)
    (hrange : kind.range? = none) : ¬IsOutOfRange c v := by
  rintro ⟨kind', i, hkind', hrange', -⟩
  rw [hkind] at hkind'
  cases hkind'
  rw [hrange] at hrange'
  cases hrange'

/-- A whole number is refused when it is out of range, and stored exactly otherwise. -/
theorem storeAs_whole (hkind : c.numberKind? = some kind) (hrange : kind.range?.isSome = true)
    (hv : v.wholeNumber? = some i) :
    (IsOutOfRange c v → ∃ message, storeAs kind v = .error ⟨.overflow, message⟩) ∧
      (¬IsOutOfRange c v → storeAs kind v = .ok (.int i)) := by
  rw [storeAs_of_wholeNumber hrange hv]
  constructor
  · rintro ⟨kind', j, hkind', -, hj, hholds⟩
    rw [hkind] at hkind'
    rw [hv] at hj
    cases hkind'
    cases hj
    obtain ⟨message, hfail⟩ := checkedInt_of_not_holds hrange hholds
    rw [hfail]
    exact ⟨message, rfl⟩
  · intro hin
    have hholds : kind.HoldsInt i := by
      by_contra hholds
      exact hin ⟨kind, i, hkind, hrange, hv, hholds⟩
    rw [checkedInt_of_holds hholds]
    rfl

/-- A class of numbers stores its values as they are listed, unless one is out of range. -/
theorem storeAs_of_isElement (h : IsElement c v w) (hkind : c.numberKind? = some kind) :
    (IsOutOfRange c v → ∃ message, storeAs kind v = .error ⟨.overflow, message⟩) ∧
      (¬IsOutOfRange c v → ∃ x, storeAs kind v = .ok x ∧ w = .number kind x) := by
  cases h with
  | bool b =>
    cases hkind
    exact ⟨fun hout => absurd hout (not_isOutOfRange_of_range rfl rfl), fun _ => ⟨_, rfl, rfl⟩⟩
  | int hv =>
    cases hkind
    obtain ⟨hout, hin⟩ := storeAs_whole (c := .builtin "int") (rfl : _ = some Kind.int64) rfl hv
    exact ⟨hout, fun h => ⟨_, hin h, rfl⟩⟩
  | float hv hx =>
    cases hkind
    exact ⟨fun hout => absurd hout (not_isOutOfRange_of_range rfl rfl),
      fun _ => ⟨_, storeAs_of_realNumber hv hx, rfl⟩⟩
  | number hx =>
    cases hkind
    refine ⟨fun hout => absurd hout (not_isOutOfRange rfl), fun _ => ⟨_, ?_, rfl⟩⟩
    change Except.ok (Scalar.cast kind _) = _
    rw [Scalar.cast_eq_self hx]
  | truth b =>
    cases hkind
    exact ⟨fun hout => absurd hout (not_isOutOfRange_of_range rfl rfl), fun _ => ⟨_, rfl, rfl⟩⟩
  | whole hrange hv =>
    cases hkind
    obtain ⟨hout, hin⟩ := storeAs_whole (c := .number kind) rfl hrange hv
    exact ⟨hout, fun h => ⟨_, hin h, rfl⟩⟩
  | real hformat hx =>
    cases hkind
    refine ⟨fun hout => absurd hout (not_isOutOfRange rfl), fun _ => ⟨_, ?_, rfl⟩⟩
    unfold storeAs
    rw [hformat]
    rfl
  | member hc =>
    rw [ClassRef.numberKind?_of_enum hc] at hkind
    cases hkind
  | vector2 => cases hkind
  | vector3 => cases hkind

end Store

namespace Storage

def zero : Storage → Value
  | .numbers kind => .number kind (.zero kind)
  | .foreign type => type.zero
  | .values => .none

def keep (s : Storage) (v : Value) : Except Fault Value :=
  match s with
  | .numbers kind => do return .number kind (← storeAs kind v)
  | .foreign type => type.keep v
  | .values => .ok v

def plain : Storage → Value → Value
  | .numbers _, .number _ x => plainValue x
  | .foreign type, v => type.plain v
  | _, v => v

theorem keep_numbers {kind : Kind} {v : Value} : (Storage.numbers kind).keep v =
    storeAs kind v >>= fun x => .ok (.number kind x) := rfl

end Storage

namespace Buffer

variable {b : Buffer} {i : Nat} {v w : Value} {f : Fault}

theorem set_numbers {kind : Kind} {cells : List Scalar} : (Buffer.numbers kind cells).set i v =
    storeAs kind v >>= fun x => .ok (.numbers kind (cells.set i x)) := rfl

theorem set_foreign {type : ElementType} {cells : List Value} :
    (Buffer.foreign type cells).set i v =
      type.keep v >>= fun x => .ok (.foreign type (cells.set i x)) := rfl

/-- Storing a value changes the element at its index only. -/
theorem set_ok (h : b.storage.keep v = .ok w) : ∃ b', b.set i v = .ok b' ∧
    b'.storage = b.storage ∧ b'.length = b.length ∧ b'.elements = b.elements.set i w := by
  cases b with
  | numbers kind cells =>
    obtain ⟨x, hx, hpure⟩ := bind_eq_ok.mp (Storage.keep_numbers.symm.trans h)
    cases hpure
    refine ⟨.numbers kind (cells.set i x), ?_, rfl, List.length_set, List.map_set⟩
    rw [set_numbers, hx]
    rfl
  | foreign type cells =>
    refine ⟨.foreign type (cells.set i w), ?_, rfl, List.length_set, rfl⟩
    rw [set_foreign, show type.keep v = .ok w from h]
    rfl
  | values cells =>
    cases h
    exact ⟨.values (cells.set i v), rfl, rfl, List.length_set, rfl⟩

theorem set_error (h : b.storage.keep v = .error f) : b.set i v = .error f := by
  cases b with
  | numbers kind cells =>
    rcases bind_eq_error.mp (Storage.keep_numbers.symm.trans h) with hstore | ⟨x, -, hpure⟩
    · rw [set_numbers, hstore]
      rfl
    · cases hpure
  | foreign type cells =>
    rw [set_foreign, show type.keep v = .error f from h]
    rfl
  | values => cases h

theorem toList_eq (b : Buffer) : b.toList = b.elements.map b.storage.plain := by
  cases b with
  | numbers kind cells =>
    unfold toList elements
    rw [List.map_map]
    rfl
  | foreign type cells => rfl
  | values cells => exact (List.map_id cells).symm

@[simp] theorem storage_fresh (storage : Storage) (n : Nat) :
    (fresh storage n).storage = storage := by
  cases storage <;> rfl

theorem elements_fresh (storage : Storage) (n : Nat) :
    (fresh storage n).elements = List.replicate n storage.zero := by
  cases storage with
  | numbers kind => exact List.map_replicate
  | foreign => rfl
  | values => rfl

theorem length_fresh (storage : Storage) (n : Nat) : (fresh storage n).length = n := by
  unfold fresh
  split <;> exact List.length_replicate

theorem length_elements (b : Buffer) : b.elements.length = b.length := by
  cases b with
  | numbers kind cells => exact List.length_map ..
  | foreign => rfl
  | values => rfl

end Buffer

theorem checkNonNegative_natCast (what : String) (n : Nat) :
    checkNonNegative what (.int n) = .ok () := by
  have hnonneg : ¬(n : Int) < 0 := by omega
  simp [checkNonNegative, Value.numeric?, hnonneg]

namespace FixedArray

variable {p : Platform} {a : FixedArray} {b : Buffer} {i n : Nat} {v element : Value}
  {storage : Storage}

theorem checkIndex_of_lt (hi : i < b.length) : checkIndex b (.int i) = .ok () := by
  have hin : (decide ((0 : Int) ≤ i) && decide ((i : Int) < b.length)) = true := by
    simp [hi]
  change (if !(decide ((0 : Int) ≤ i) && decide ((i : Int) < b.length)) then _ else _) = _
  rw [hin]
  rfl

theorem set_of_lt (hb : a.buffer = some b) (hi : i < b.length) :
    a.set (.int i) v = b.set i v >>= fun b => .ok { a with buffer := some b } := by
  unfold set require
  rw [hb]
  change (checkIndex b (.int i) >>= fun _ =>
    b.set (i : Int).toNat v >>= fun b => .ok { a with buffer := some b }) = _
  rw [checkIndex_of_lt hi]
  rfl

theorem get_of_lt (hb : a.buffer = some b) (hi : i < b.length) :
    a.get (.int i) = .ok (b.elements[i]?.getD .none) := by
  unfold get require
  rw [hb]
  change (checkIndex b (.int i) >>= fun _ => .ok ((b.elements)[(i : Int).toNat]?.getD .none)) = _
  rw [checkIndex_of_lt hi]
  rfl

def HasRoom (p : Platform) (storage : Storage) (n : Nat) : Prop :=
  n < twoTo 63 ∧ n * storage.size < twoTo 63 ∧ p.grants (n * storage.size) = true

instance : Decidable (HasRoom p storage n) := inferInstanceAs (Decidable (_ ∧ _ ∧ _))

theorem lengthOf_ok (hroom : HasRoom p storage n) : lengthOf p storage (.int n) = .ok n := by
  obtain ⟨hn, hsize, hgrants⟩ := hroom
  unfold lengthOf
  simp only [Int.toNat_natCast]
  rw [if_neg (by omega), if_neg (by omega), if_pos hgrants]

theorem lengthOf_error (hroom : ¬HasRoom p storage n) :
    ∃ f, lengthOf p storage (.int n) = .error f ∧
      (f.kind = .outOfMemory ∨ f.kind = .badValue) := by
  unfold lengthOf
  simp only [Int.toNat_natCast]
  split
  · exact ⟨_, rfl, .inr rfl⟩
  split
  · exact ⟨_, rfl, .inr rfl⟩
  split
  · exact absurd ⟨by omega, by omega, by assumption⟩ hroom
  · exact ⟨_, rfl, .inl rfl⟩

theorem create_eq_bind (hstorage : Storage.ofElement p element = .ok storage) :
    create p element (.int n) (.allocator .persistent) =
      lengthOf p storage (.int n) >>= fun length =>
        .ok ⟨element, .persistent, some (.fresh storage length)⟩ := by
  unfold create
  rw [checkNonNegative_natCast, hstorage]
  rfl

/-- An array of a length is made as long as there is room for it. -/
theorem create_ok (hstorage : Storage.ofElement p element = .ok storage)
    (hroom : HasRoom p storage n) : create p element (.int n) (.allocator .persistent) =
      .ok ⟨element, .persistent, some (.fresh storage n)⟩ := by
  rw [create_eq_bind hstorage, lengthOf_ok hroom]
  rfl

theorem create_error (hstorage : Storage.ofElement p element = .ok storage)
    (hroom : ¬HasRoom p storage n) :
    ∃ f, create p element (.int n) (.allocator .persistent) = .error f ∧
      (f.kind = .outOfMemory ∨ f.kind = .badValue) := by
  obtain ⟨f, hfail, hkind⟩ := lengthOf_error hroom
  rw [create_eq_bind hstorage, hfail]
  exact ⟨f, rfl, hkind⟩

end FixedArray

end StructForge.Container

import Mathlib.Data.List.Find
import StructForge.Live.Describe
import StructForge.Proofs.Container.Elements

/-! # Enums of whole numbers

Members of an enum class that have the same whole number as their value are names of one member. A
class that is met as one of whole numbers has no member with another value: a walk over a class of
flags leaves out what is no single bit, but there is no class of flags with a value without bits. -/

namespace StructForge.Live

open Number

def Value.IsKept (v : Value) : Prop :=
  ∀ cls base name value, v = .member cls base name value →
    cls.enumBase? = some base ∧ (base.isInt = true → ∃ i, value = .int i)

/-- The whole number that a value counts as, of any width. -/
def Value.whole? (v : Value) : Option Int :=
  match v.numeric? with
  | some (.whole i) => some i
  | _ => .none

def Value.memberNumber? : Value → Option Int
  | .member _ _ _ value => value.whole?
  | _ => .none

section Equality

variable {v w : Value} {i j : Int} {cls cls' : ClassRef} {base base' : EnumBase}
  {name name' : String} {value value' : Value}

theorem Value.member_equals (hw : ∀ cls base name value, w ≠ .member cls base name value) :
    (Value.member cls base name value).equals w =
      if base == .plain || base == .flag then false else value.equals w := by
  rw [Value.equals]
  exact hw

theorem Value.member_equals_member :
    (Value.member cls base name value).equals (.member cls' base' name' value') =
      if base == .plain || base == .flag || base' == .plain || base' == .flag then
        cls == cls' && name == name'
      else value.equals value' := by
  rw [Value.equals]

theorem Value.whole?_eq_some : v.whole? = some i ↔ v.numeric? = some (.whole i) := by
  unfold whole?
  split
  · rename_i hwhole
    rw [hwhole, Option.some.injEq, Option.some.injEq, Exact.whole.injEq]
  · rename_i hother
    refine iff_of_false nofun fun h => hother i h

theorem Value.whole?_of_member (hi : (Value.member cls base name value).whole? = some i) :
    base.isInt = true ∧ value.whole? = some i := by
  rw [whole?_eq_some, numeric?] at hi
  split at hi
  · rename_i hint
    exact ⟨hint, whole?_eq_some.mpr hi⟩
  · cases hi

/-- A whole number of fixed width equals what that of unbounded size equals. -/
theorem Value.equals_number {kind : Kind} {x : Scalar} (hx : scalarExact x = .whole i) :
    ∀ v : Value, v.equals (.number kind x) = v.equals (.int i)
  | .member _ _ _ value => by
    rw [member_equals (by simp), member_equals (by simp), equals_number hx value]
  | .bool b => congrArg (Exact.equals (.whole (Scalar.ofBool b))) hx
  | .int j => congrArg (Exact.equals (.whole j)) hx
  | .float y => congrArg (Exact.equals (.real y)) hx
  | .number _ y => congrArg (Exact.equals (scalarExact y)) hx
  | .none | .text _ | .list _ | .tuple _ | .dict _ | .vector2 .. | .vector3 .. | .single _
  | .object .. | .hint _ => by rfl

theorem Value.equals_bool (b : Bool) :
    ∀ v : Value, v.equals (.bool b) = v.equals (.int (Scalar.ofBool b))
  | .member _ _ _ value => by
    rw [member_equals (by simp), member_equals (by simp), equals_bool b value]
  | .bool _ | .int _ | .float _ | .number _ _ | .none | .text _ | .list _ | .tuple _ | .dict _
  | .vector2 .. | .vector3 .. | .single _ | .object .. | .hint _ => by rfl

theorem Value.equals_intMember (hbase : base.isInt = true) (hcls : cls.enumBase? = some base)
    (hv : v.IsKept) : v.equals (.member cls base name (.int i)) = v.equals (.int i) := by
  cases v with
  | member cls' base' name' value' =>
    obtain ⟨hcls', -⟩ := hv _ _ _ _ rfl
    have hplain : (base == .plain || base == .flag) = false := by
      cases base <;> first | rfl | cases hbase
    rw [member_equals_member, member_equals (by simp), Bool.or_assoc, hplain, Bool.or_false]
    cases hplain' : base' == .plain || base' == .flag with
    | false => rfl
    | true =>
      have hne : (cls' == cls) = false := by
        rw [beq_eq_false_iff_ne]
        rintro rfl
        rw [hcls, Option.some.injEq] at hcls'
        rw [hcls', hplain'] at hplain
        cases hplain
      simp [hne]
  | _ => cases base <;> first | rfl | cases hbase

theorem Value.equals_whole (hv : v.IsKept) (hw : w.IsKept) (hi : w.whole? = some i) :
    v.equals w = v.equals (.int i) := by
  rw [whole?_eq_some] at hi
  cases w with
  | bool b =>
    cases hi
    exact equals_bool b v
  | int =>
    cases hi
    rfl
  | number kind x => exact equals_number (Option.some.inj hi) v
  | member cls base name value =>
    obtain ⟨hint, hi⟩ := whole?_of_member (whole?_eq_some.mpr hi)
    obtain ⟨hcls, hvalue⟩ := hw _ _ _ _ rfl
    obtain ⟨j, rfl⟩ := hvalue hint
    cases hi
    exact equals_intMember hint hcls hv
  | _ => cases hi

theorem Value.whole_equals_int : ∀ {v : Value}, v.whole? = some i → v.equals (.int j) = (i == j)
  | .member _ base _ value, hi => by
    obtain ⟨hint, hvalue⟩ := whole?_of_member hi
    rw [member_equals (by simp), whole_equals_int hvalue]
    cases base <;> first | rfl | cases hint
  | .number _ x, hi => by
    have hx : scalarExact x = .whole i := Option.some.inj (whole?_eq_some.mp hi)
    exact congrArg (fun a => Exact.equals a (.whole j)) hx
  | .bool _, hi | .int _, hi => by
    cases hi
    rfl
  | .float _, hi | .none, hi | .text _, hi | .list _, hi | .tuple _, hi | .dict _, hi
  | .vector2 .., hi | .vector3 .., hi | .single _, hi | .object .., hi | .hint _, hi => by
    cases hi

theorem Value.toInt_of_whole : ∀ {v : Value}, v.whole? = some i → v.toInt = .ok i
  | .member _ base _ value, hi => by
    obtain ⟨hint, hvalue⟩ := whole?_of_member hi
    rw [← toInt_of_whole hvalue, toInt]
    cases base <;> first | rfl | cases hint
  | .number _ x, hi => by
    have hx : scalarExact x = .whole i := Option.some.inj (whole?_eq_some.mp hi)
    cases x <;> cases hx <;> rfl
  | .bool _, hi | .int _, hi => by
    cases hi
    rfl
  | .float _, hi | .none, hi | .text _, hi | .list _, hi | .tuple _, hi | .dict _, hi
  | .vector2 .., hi | .vector3 .., hi | .single _, hi | .object .., hi | .hint _, hi => by
    cases hi

theorem Value.whole_equals_whole (hv : v.IsKept) (hw : w.IsKept) (hi : v.whole? = some i)
    (hj : w.whole? = some j) : v.equals w = (i == j) := by
  rw [equals_whole hv hw hj, whole_equals_int hi]

end Equality

section Members

variable {ms : List Member} {pairs : List (String × Value)} {m m' : Member} {i j : Int}

def addMember (ms : List Member) (p : String × Value) : List Member :=
  match ms.find? (·.value.equals p.2) with
  | some m => ms ++ [⟨p.1, p.2, m.stands⟩]
  | none => ms ++ [⟨p.1, p.2, p.1⟩]

def StandByValue (ms : List Member) : Prop :=
  ∀ m ∈ ms, m.value.IsKept ∧ ∀ i, m.value.whole? = some i →
    ∃ e, ms.find? (·.value.equals (.int i)) = some e ∧ e.stands = m.stands

theorem addMember_eq_append (ms : List Member) (p : String × Value) :
    ∃ stands, addMember ms p = ms ++ [⟨p.1, p.2, stands⟩] := by
  unfold addMember
  split
  · exact ⟨_, rfl⟩
  · exact ⟨_, rfl⟩

theorem StandByValue.add (h : StandByValue ms) {p : String × Value} (hp : p.2.IsKept) :
    StandByValue (addMember ms p) := by
  have hsame (i : Int) (hi : p.2.whole? = some i) :
      ms.find? (·.value.equals p.2) = ms.find? (·.value.equals (.int i)) :=
    List.find?_congr fun m hm => Value.equals_whole (h m hm).1 hp hi
  have hold (n : Member) (m : Member) (hm : m ∈ ms) (i : Int) (hi : m.value.whole? = some i) :
      ∃ e, (ms ++ [n]).find? (·.value.equals (.int i)) = some e ∧ e.stands = m.stands := by
    obtain ⟨e, hfind, hstands⟩ := (h m hm).2 i hi
    exact ⟨e, by rw [List.find?_append, hfind]; rfl, hstands⟩
  unfold addMember
  cases hfind : ms.find? (·.value.equals p.2) with
  | some e =>
    intro m hm
    rcases List.mem_append.mp hm with hm | hm
    · exact ⟨(h m hm).1, hold _ m hm⟩
    · obtain rfl := List.mem_singleton.mp hm
      refine ⟨hp, fun i hi => ⟨e, ?_, rfl⟩⟩
      rw [List.find?_append, ← hsame i hi, hfind]
      rfl
  | none =>
    intro m hm
    rcases List.mem_append.mp hm with hm | hm
    · exact ⟨(h m hm).1, hold _ m hm⟩
    · obtain rfl := List.mem_singleton.mp hm
      refine ⟨hp, fun i hi => ⟨_, ?_, rfl⟩⟩
      have hself : p.2.equals (.int i) = true := by
        rw [Value.whole_equals_int hi]
        exact beq_self_eq_true i
      rw [List.find?_append, ← hsame i hi, hfind, Option.none_or]
      rw [List.find?_cons_of_pos (by exact hself)]

theorem standByValue_membersOf (hpairs : ∀ p ∈ pairs, p.2.IsKept) :
    StandByValue (membersOf pairs) := by
  have hrun (ms : List Member) (h : StandByValue ms) : StandByValue (pairs.foldl addMember ms) := by
    induction pairs generalizing ms with
    | nil => exact h
    | cons p rest ih =>
      exact ih (fun q hq => hpairs q (List.mem_cons_of_mem _ hq)) _
        (h.add (hpairs p List.mem_cons_self))
  exact hrun [] (by simp [StandByValue])

theorem StandByValue.stands_eq (h : StandByValue ms) (hm : m ∈ ms) (hm' : m' ∈ ms)
    (hi : m.value.whole? = some i) (hi' : m'.value.whole? = some i) :
    m.stands = m'.stands := by
  obtain ⟨e, hfind, hstands⟩ := (h m hm).2 i hi
  obtain ⟨e', hfind', hstands'⟩ := (h m' hm').2 i hi'
  rw [hfind, Option.some.injEq] at hfind'
  rw [← hstands, ← hstands', hfind']

theorem mem_membersOf (hm : m ∈ membersOf pairs) : (m.name, m.value) ∈ pairs := by
  have hrun (pairs : List (String × Value)) (ms : List Member) (h : m ∈ pairs.foldl addMember ms) :
      m ∈ ms ∨ (m.name, m.value) ∈ pairs := by
    induction pairs generalizing ms with
    | nil => exact .inl h
    | cons p rest ih =>
      rcases ih (addMember ms p) h with hm | hm
      · obtain ⟨stands, hadd⟩ := addMember_eq_append ms p
        rw [hadd, List.mem_append, List.mem_singleton] at hm
        rcases hm with hm | rfl
        · exact .inl hm
        · exact .inr List.mem_cons_self
      · exact .inr (List.mem_cons_of_mem _ hm)
  rcases hrun pairs [] hm with hm | hm
  · cases hm
  · exact hm

theorem eq_membersOf_of_makeMembers {base : EnumBase}
    (h : base.makeMembers pairs = .ok ms) : ms = membersOf pairs := by
  unfold EnumBase.makeMembers at h
  split at h
  · cases h
  · exact (Except.ok.inj h).symm

theorem whole_of_faultless {v : Value} (hv : v.IsKept) (hbit : bitFault? v = none)
    (hmask : maskFault? v = none) : ∃ i, v.whole? = some i := by
  simp only [Value.whole?_eq_some]
  unfold bitFault? at hbit
  split at hbit
  · rename_i i hi
    exact ⟨i, hi⟩
  · rename_i x hx
    cases v with
    | float => cases hmask
    | number kind y =>
      cases y with
      | float => cases hmask
      | bool | int => simp [Value.numeric?, Value.scalarExact] at hx
    | member cls base name value =>
      rw [Value.numeric?] at hx
      split at hx
      · rename_i hint
        obtain ⟨i, rfl⟩ := (hv _ _ _ _ rfl).2 hint
        cases hx
      · cases hx
    | _ => cases hx
  · cases hbit

theorem whole_of_makeMembers (h : EnumBase.flag.makeMembers pairs = .ok ms) (hm : m ∈ ms)
    (hown : m.stands = m.name) (hkept : m.value.IsKept) : ∃ i, m.value.whole? = some i := by
  obtain rfl := eq_membersOf_of_makeMembers h
  have hvalue : m.value ∈ ((membersOf pairs).filter fun m => m.stands == m.name).map (·.value) :=
    List.mem_map_of_mem (List.mem_filter.mpr ⟨hm, beq_iff_eq.mpr hown⟩)
  unfold EnumBase.makeMembers at h
  cases hfault : flagFault? (membersOf pairs) with
  | some f =>
    rw [hfault] at h
    cases h
  | none =>
    simp only [flagFault?, Option.orElse_eq_orElse, Option.orElse_eq_or, Option.or_eq_none_iff,
      List.findSome?_eq_none_iff] at hfault
    exact whole_of_faultless hkept (hfault.1 _ hvalue) (hfault.2 _ hvalue)

end Members

namespace Registry

variable {r : Registry} {c : ClassRef} {base : EnumBase} {names : Int → String} {v w : Value}
  {i j : Int}

/-- An enum class: it is made of names and values as its base keeps them. -/
def IsEnumClass (r : Registry) (c : ClassRef) (base : EnumBase) : Prop :=
  c.enumBase? = some base ∧ ∃ info pairs members, r.info? c = some info ∧
    base.makeMembers pairs = .ok members ∧ info.body = .enum base members ∧
    ∀ p ∈ pairs, p.2.IsKept ∧ (base.isInt = true → ∃ i, p.2 = .int i)

def HasWholeMembers (r : Registry) (c : ClassRef) : Prop :=
  ∀ m ∈ r.members c, m.stands = m.name → ∃ i, m.value.whole? = some i

/-- A member of an enum class: a named one, or a combination of flags that has no name. The names of
combinations are given by their numbers. -/
inductive IsMember (r : Registry) (names : Int → String) (c : ClassRef) : Value → Prop
  | named {base : EnumBase} {m : Member} (hbase : c.enumBase? = some base) (hm : m ∈ r.members c)
      (hown : m.stands = m.name) : IsMember r names c (.member c base m.name m.value)
  | combined {base : EnumBase} {n : Int} (hbase : c.enumBase? = some base)
      (hflag : base.isFlag = true) (hfree : ∀ m ∈ r.members c, m.value.equals (.int n) = false) :
      IsMember r names c (.member c base (names n) (.int n))

/-- The members of an enum class that is not one of flags are met unless they are other names. -/
theorem IsEnumClass.members_eq (h : r.IsEnumClass c base) :
    ∃ pairs, r.members c = membersOf pairs ∧ base.makeMembers pairs = .ok (r.members c) ∧
      (∀ p ∈ pairs, p.2.IsKept ∧ (base.isInt = true → ∃ i, p.2 = .int i)) ∧
      (base.isFlag = false → ∀ m ∈ membersOf pairs, m.stands = m.name → m ∈ r.iterated c) := by
  obtain ⟨-, info, pairs, members, hinfo, hmake, hbody, hpairs⟩ := h
  obtain ⟨label, order, body, collected, attributes⟩ := info
  cases hbody
  obtain rfl := eq_membersOf_of_makeMembers hmake
  have hmembers : r.members c = membersOf pairs := by
    unfold Registry.members
    rw [hinfo]
  refine ⟨pairs, hmembers, hmembers ▸ hmake, hpairs, fun hflag m hm hown => ?_⟩
  unfold iterated
  rw [hinfo]
  exact List.mem_filter.mpr ⟨hm, by simp [hown, hflag]⟩

theorem hasWholeMembers_of_isIntValued (h : r.IsEnumClass c base)
    (hint : r.isIntValued c = true) : r.HasWholeMembers c := by
  obtain ⟨pairs, hmembers, hmake, hpairs, hmet⟩ := h.members_eq
  intro m hm hown
  obtain ⟨hkept, hwhole⟩ := hpairs _ (mem_membersOf (hmembers ▸ hm))
  by_cases hbase : base = .flag
  · subst hbase
    exact whole_of_makeMembers hmake hm hown hkept
  by_cases hbaseInt : base.isInt = true
  · obtain ⟨i, hi⟩ := hwhole hbaseInt
    change m.value = .int i at hi
    exact ⟨i, by rw [hi]; rfl⟩
  · have hflag : base.isFlag = false := by
      cases base <;> first | rfl | exact absurd rfl hbase | exact absurd rfl hbaseInt
    unfold isIntValued at hint
    simp only [Bool.and_eq_true, List.all_eq_true] at hint
    have hvalue := hint.2 m (hmet hflag m (hmembers ▸ hm) hown)
    split at hvalue
    · rename_i i hi
      exact ⟨i, by rw [hi]; rfl⟩
    · rename_i cls base' name value hi
      obtain ⟨-, hinner⟩ := hkept _ _ _ _ hi
      obtain ⟨i, rfl⟩ := hinner hvalue
      refine ⟨i, Value.whole?_eq_some.mpr ?_⟩
      rw [hi, Value.numeric?, if_pos hvalue]
      rfl
    · cases hvalue

theorem IsMember.form (hv : r.IsMember names c v) (h : r.IsEnumClass c base) :
    ∃ name value, v = .member c base name value ∧ value.IsKept := by
  have hbase := h.1
  cases hv with
  | @named base' m hbase' hm =>
    rw [hbase, Option.some.injEq] at hbase'
    obtain ⟨pairs, hmembers, -, hpairs, -⟩ := h.members_eq
    rw [hmembers] at hm
    exact ⟨_, _, by rw [hbase'], (hpairs _ (mem_membersOf hm)).1⟩
  | combined hbase' =>
    rw [hbase, Option.some.injEq] at hbase'
    refine ⟨_, _, by rw [hbase'], ?_⟩
    rintro cls base name value ⟨⟩

theorem name_eq_of_whole {name name' : String} {value value' : Value} (h : r.IsEnumClass c base)
    (hv : r.IsMember names c (.member c base name value))
    (hw : r.IsMember names c (.member c base name' value'))
    (hi : value.whole? = some i) (hi' : value'.whole? = some i) : name = name' := by
  obtain ⟨pairs, hmembers, -, hpairs, -⟩ := h.members_eq
  have hstands := standByValue_membersOf fun p hp => (hpairs p hp).1
  rw [← hmembers] at hstands
  cases hv with
  | named _ hm hown =>
    cases hw with
    | named _ hm' hown' => rw [← hown, ← hown', hstands.stands_eq hm hm' hi hi']
    | combined _ _ hfree =>
      cases hi'
      have hequal := hfree _ hm
      rw [Value.whole_equals_int hi, beq_self_eq_true] at hequal
      cases hequal
  | combined _ _ hfree =>
    cases hi
    cases hw with
    | named _ hm' =>
      have hequal := hfree _ hm'
      rw [Value.whole_equals_int hi', beq_self_eq_true] at hequal
      cases hequal
    | combined =>
      cases hi'
      rfl

theorem IsMember.exists_number (hv : r.IsMember names c v) (hwhole : r.HasWholeMembers c) :
    ∃ i, v.memberNumber? = some i := by
  cases hv with
  | named _ hm hown => exact hwhole _ hm hown
  | @combined _ n => exact ⟨n, rfl⟩

theorem IsMember.number_ne (hv : r.IsMember names c v) (hw : r.IsMember names c w)
    (h : r.IsEnumClass c base) (hne : v.equals w = false) (hi : v.memberNumber? = some i) :
    w.memberNumber? ≠ some i := by
  obtain ⟨name, value, rfl, hkept⟩ := hv.form h
  obtain ⟨name', value', rfl, hkept'⟩ := hw.form h
  intro hi'
  rw [Value.member_equals_member] at hne
  split at hne
  · rw [name_eq_of_whole h hv hw hi hi'] at hne
    simp at hne
  · rw [Value.whole_equals_whole hkept hkept' hi hi', beq_self_eq_true] at hne
    cases hne

end Registry

end StructForge.Live

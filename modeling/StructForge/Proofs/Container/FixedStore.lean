import Mathlib.Data.List.Induction
import StructForge.Proofs.Container.Elements
import StructForge.Proofs.Container.Release

/-! # Arrays as stores of fixed length

After any calls an array holds at each of its places what was kept for the value last stored there,
or a fresh element. Every call is answered from these elements, and one that is refused changes
nothing. A truth value as an index passes the check of indices as a number does, but it names all
places or none, and no call of that kind is followed here. -/

namespace StructForge.Container

open Live

/-! ## Places and elements -/

def isTruthValue : Value → Bool
  | .bool _ | .number _ (.bool _) => true
  | _ => false

/-- The place that an index names: the whole number that it is. Truth values name none. -/
def place? (index : Value) : Option Int :=
  if isTruthValue index then none
  else match index.numeric? with
    | some (.whole i) => some i
    | _ => none

/-- The failure of an index that names no place of an array with `n` of them. -/
def rangeFault (index : Value) (n : Nat) : Fault :=
  ⟨.badIndex, s!"Index {index.display} is out of range of '{n}' length"⟩

namespace ArrayCall

def index? : ArrayCall → Option Value
  | .get index | .set index _ => some index
  | _ => none

def IsPlaced (call : ArrayCall) : Prop :=
  ∀ index, call.index? = some index → isTruthValue index = false

def kept? (s : Storage) (i : Nat) : ArrayCall → Option Value
  | .set index v => if place? index = some (i : Int) then (s.keep v).toOption else none
  | _ => none

end ArrayCall

/-- The element at a place after some calls: the last one that was kept there, or a fresh one. -/
def stored (s : Storage) (calls : List ArrayCall) (i : Nat) : Value :=
  ((calls.filterMap (·.kept? s i)).getLast?).getD s.zero

/-- The elements of an array with `n` places after some calls. -/
def contents (s : Storage) (n : Nat) (calls : List ArrayCall) : List Value :=
  (List.range n).map (stored s calls)

/-- What a call of an array with some elements is answered. The written form of an array is left
open, and so is the wording for an index that is no whole number. -/
inductive Reply (s : Storage) (cells : List Value) : ArrayCall → Except Fault Value → Prop
  | read {index v : Value} {i : Nat} (hi : place? index = some (i : Int))
      (hv : cells[i]? = some v) : Reply s cells (.get index) (.ok v)
  | stored {index v w : Value} {i : Nat} (hi : place? index = some (i : Int))
      (hlt : i < cells.length) (hkeep : s.keep v = .ok w) : Reply s cells (.set index v) (.ok .none)
  | unfit {index v : Value} {i : Nat} {f : Fault} (hi : place? index = some (i : Int))
      (hlt : i < cells.length) (hkeep : s.keep v = .error f) :
      Reply s cells (.set index v) (.error f)
  | outside {call : ArrayCall} {index : Value} {i : Int} (hindex : call.index? = some index)
      (hi : place? index = some i) (hout : i < 0 ∨ cells.length ≤ i) :
      Reply s cells call (.error (rangeFault index cells.length))
  | noPlace {call : ArrayCall} {index : Value} {f : Fault} (hindex : call.index? = some index)
      (hi : place? index = none) (hf : f.kind = .badType ∨ f.kind = .badIndex) :
      Reply s cells call (.error f)
  | length : Reply s cells .length (.ok (.int cells.length))
  | elements : Reply s cells .elements (.ok (.list cells))
  | toList : Reply s cells .toList (.ok (.list (cells.map s.plain)))
  | isCreated : Reply s cells .isCreated (.ok (.bool true))
  | shown (text : String) : Reply s cells .shown (.ok (.text text))
  | view : Reply s cells .view (.ok (.list [.text s.name, .bool false, .list (cells.map s.plain)]))
  | readOnly (index v : Value) : Reply s cells (.setView index v)
      (.error ⟨.badValue, "assignment destination is read-only"⟩)
  | disposed : Reply s cells .dispose (.ok .none)

section Contents

variable {s : Storage} {n i : Nat} {calls : List ArrayCall} {call : ArrayCall}

@[simp] theorem length_contents : (contents s n calls).length = n := by simp [contents]

theorem getElem?_contents (hi : i < n) : (contents s n calls)[i]? = some (stored s calls i) := by
  simp [contents, hi]

theorem contents_nil : contents s n [] = List.replicate n s.zero := by
  apply List.ext_getElem?
  intro i
  by_cases hi : i < n <;> simp [contents, stored, hi]

theorem stored_concat :
    stored s (calls ++ [call]) i = (call.kept? s i).getD (stored s calls i) := by
  unfold stored
  rw [List.filterMap_append]
  cases hkept : call.kept? s i <;> simp [hkept]

theorem contents_concat_of_idle (h : ∀ i < n, call.kept? s i = none) :
    contents s n (calls ++ [call]) = contents s n calls := by
  unfold contents
  apply List.map_congr_left
  intro i hi
  rw [stored_concat, h i (List.mem_range.mp hi)]
  rfl

theorem contents_concat_set {index v w : Value} (hi : place? index = some (i : Int))
    (hkeep : s.keep v = .ok w) :
    contents s n (calls ++ [.set index v]) = (contents s n calls).set i w := by
  apply List.ext_getElem?
  intro j
  by_cases hj : j < n
  · rw [List.getElem?_set, getElem?_contents hj, getElem?_contents hj, stored_concat]
    by_cases hij : i = j
    · subst hij
      simp [ArrayCall.kept?, hi, hkeep, hj, Except.toOption]
    · have hne : ¬(i : Int) = j := by omega
      simp [ArrayCall.kept?, hi, hij, hne]
  · have hlength : n ≤ j := by omega
    simp [hlength]

end Contents

/-! ## Arrays -/

section Places

variable {index : Value} {i : Int} {n : Nat}

theorem numeric?_of_place (h : place? index = some i) : index.numeric? = some (.whole i) := by
  unfold place? at h
  grind

theorem placeOf_of_place (h : place? index = some i) : placeOf index = .ok (.at i.toNat) := by
  have hnumeric := numeric?_of_place h
  unfold placeOf
  split
  · simp [place?, isTruthValue] at h
  · simp [place?, isTruthValue] at h
  · rw [hnumeric]

theorem inBounds_of_place (h : place? index = some i) :
    inBounds index n = .ok (decide (0 ≤ i ∧ i < n)) := by
  unfold inBounds
  rw [numeric?_of_place h]
  simp

/-- What is no whole number is refused as an index, in bounds or not. -/
theorem placeOf_of_not_place (htruth : isTruthValue index = false) (h : place? index = none) :
    ∃ f, placeOf index = .error f ∧ f.kind = .badIndex := by
  unfold place? at h
  rw [htruth] at h
  unfold placeOf
  split
  · cases htruth
  · cases htruth
  · cases hnumeric : index.numeric? with
    | none => exact ⟨_, rfl, rfl⟩
    | some x =>
      cases x with
      | whole i => simp [hnumeric] at h
      | real x => exact ⟨_, rfl, rfl⟩

theorem inBounds_error {f : Fault} (h : inBounds index n = .error f) : f.kind = .badType := by
  unfold inBounds at h
  split at h
  · cases h
  · cases h
  · cases h
    rfl

end Places

namespace FixedArray

def Holds (a : FixedArray) (s : Storage) (cells : List Value) : Prop :=
  ∃ b, a.buffer = some b ∧ b.storage = s ∧ b.elements = cells

/-- Makes a call; an array that refuses it stays as it is. -/
def answer (a : FixedArray) (call : ArrayCall) : FixedArray × Except Fault Value :=
  match a.run call with
  | .ok (a', v) => (a', .ok v)
  | .error f => (a, .error f)

def after (a : FixedArray) (calls : List ArrayCall) : FixedArray :=
  calls.foldl (fun a call => (a.answer call).1) a

variable {p : Platform} {a a' : FixedArray} {s : Storage} {cells : List Value} {index v w element length : Value}
  {i n : Nat} {f : Fault} {call : ArrayCall} {calls : List ArrayCall} {given : Given}

theorem answer_ok (h : a.run call = .ok (a', v)) : a.answer call = (a', .ok v) := by
  unfold answer
  rw [h]

theorem answer_error (h : a.run call = .error f) : a.answer call = (a, .error f) := by
  unfold answer
  rw [h]

@[simp] theorem after_nil : a.after [] = a := rfl

@[simp] theorem after_concat : a.after (calls ++ [call]) = ((a.after calls).answer call).1 := by
  simp [after]

theorem checkIndex_of_lt_length {b : Buffer} (hi : place? index = some (i : Int))
    (hlt : i < b.length) : checkIndex b index = .ok () := by
  have hin : decide ((0 : Int) ≤ i ∧ (i : Int) < b.length) = true := by simp [hlt]
  unfold checkIndex
  rw [inBounds_of_place hi, hin]
  rfl

theorem checkIndex_of_outside {b : Buffer} {j : Int} (hj : place? index = some j)
    (hout : j < 0 ∨ b.length ≤ j) : checkIndex b index = .error (rangeFault index b.length) := by
  have hin : decide (0 ≤ j ∧ j < b.length) = false := by simp; omega
  unfold checkIndex
  rw [inBounds_of_place hj, hin]
  rfl

theorem set_of_place {b : Buffer} (hb : a.buffer = some b) (hi : place? index = some (i : Int))
    (hlt : i < b.length) :
    a.set index v = b.set i v >>= fun b => .ok { a with buffer := some b } := by
  unfold set require
  rw [hb]
  simp only [bind, Except.bind, checkIndex_of_lt_length hi hlt, placeOf_of_place hi]
  rfl

/-- Without a place in bounds neither reading nor storing gets past the index. -/
theorem run_of_checkIndex_error {b : Buffer} (hb : a.buffer = some b)
    (hindex : call.index? = some index) (h : checkIndex b index = .error f) :
    a.run call = .error f := by
  cases call <;> cases hindex <;>
    simp only [run, get, FixedArray.set, require, hb, bind, Except.bind, h]

theorem run_of_placeOf_error {b : Buffer} (hb : a.buffer = some b)
    (hindex : call.index? = some index) (hcheck : checkIndex b index = .ok ())
    (h : placeOf index = .error f) : a.run call = .error f := by
  cases call <;> cases hindex <;>
    simp only [run, get, FixedArray.set, require, hb, bind, Except.bind, hcheck, h]

namespace Holds

theorem exists_buffer (h : a.Holds s cells) : ∃ b, a.buffer = some b ∧ b.length = cells.length ∧
    b.elements = cells ∧ b.toList = cells.map s.plain ∧ b.storage.name = s.name := by
  obtain ⟨b, hb, rfl, rfl⟩ := h
  exact ⟨b, hb, (Buffer.length_elements b).symm, rfl, b.toList_eq, rfl⟩

theorem get_eq (h : a.Holds s cells) (hi : place? index = some (i : Int))
    (hv : cells[i]? = some v) : a.get index = .ok v := by
  obtain ⟨b, hb, hlength, helements, -⟩ := h.exists_buffer
  have hlt : i < b.length := hlength ▸ (List.getElem?_eq_some_iff.mp hv).1
  unfold get require
  simp only [hb, bind, Except.bind, checkIndex_of_lt_length hi hlt, placeOf_of_place hi]
  simp [helements, hv, pure, Except.pure]

theorem set_ok (h : a.Holds s cells) (hi : place? index = some (i : Int)) (hlt : i < cells.length)
    (hkeep : s.keep v = .ok w) : ∃ a', a.set index v = .ok a' ∧ a'.Holds s (cells.set i w) ∧
      a'.element = a.element ∧ a'.allocator = a.allocator := by
  obtain ⟨b, hb, rfl, rfl⟩ := h
  rw [Buffer.length_elements] at hlt
  obtain ⟨b', hset, hstorage, -, helements⟩ := Buffer.set_ok (i := i) hkeep
  refine ⟨{ a with buffer := some b' }, ?_, ⟨b', rfl, hstorage, helements⟩, rfl, rfl⟩
  rw [set_of_place hb hi hlt, hset]
  rfl

theorem set_error (h : a.Holds s cells) (hi : place? index = some (i : Int))
    (hlt : i < cells.length) (hkeep : s.keep v = .error f) : a.set index v = .error f := by
  obtain ⟨b, hb, rfl, rfl⟩ := h
  rw [Buffer.length_elements] at hlt
  rw [set_of_place hb hi hlt, Buffer.set_error hkeep]
  rfl

theorem run_error (h : a.Holds s cells) (hindex : call.index? = some index)
    (htruth : isTruthValue index = false)
    (hout : ∀ i < cells.length, place? index ≠ some (i : Int)) :
    ∃ f, a.run call = .error f ∧ Reply s cells call (.error f) := by
  obtain ⟨b, hb, hlength, -⟩ := h.exists_buffer
  cases hplace : place? index with
  | some j =>
    have hbounds : j < 0 ∨ (cells.length : Int) ≤ j := by
      by_contra hin
      have hj : place? index = some (j.toNat : Int) := by rw [hplace]; congr; omega
      exact hout j.toNat (by omega) hj
    refine ⟨rangeFault index b.length, ?_, hlength ▸ .outside hindex hplace hbounds⟩
    exact run_of_checkIndex_error hb hindex (checkIndex_of_outside hplace (hlength ▸ hbounds))
  | none =>
    cases hcheck : checkIndex b index with
    | ok u =>
      obtain ⟨f, hfail, hkind⟩ := placeOf_of_not_place htruth hplace
      exact ⟨f, run_of_placeOf_error hb hindex hcheck hfail, .noPlace hindex hplace (.inr hkind)⟩
    | error f =>
      refine ⟨f, run_of_checkIndex_error hb hindex hcheck, .noPlace hindex hplace ?_⟩
      rcases bind_eq_error.mp hcheck with hbounds | ⟨inside, hbounds, hthrow⟩
      · exact .inl (inBounds_error hbounds)
      · cases inside <;> cases hthrow
        exact .inr rfl

end Holds

/-- A call after some others is answered from what they leave, and an array that is not disposed
holds what all of them leave. -/
structure Follows (s : Storage) (n : Nat) (calls : List ArrayCall) (a : FixedArray)
    (call : ArrayCall) : Prop where
  reply : Reply s (contents s n calls) call (a.answer call).2
  holds : call ≠ .dispose → (a.answer call).1.Holds s (contents s n (calls ++ [call]))
  frame : call ≠ .dispose →
    (a.answer call).1.element = a.element ∧ (a.answer call).1.allocator = a.allocator

section Follow

variable (h : a.Holds s (contents s n calls))
include h

/-- A call that leaves the array and keeps nothing. -/
theorem follows_of_idle {reply : Except Fault Value} (hanswer : a.answer call = (a, reply))
    (hkept : ∀ i < n, call.kept? s i = none) (hreply : Reply s (contents s n calls) call reply) :
    Follows s n calls a call := by
  refine ⟨?_, fun _ => ?_, fun _ => ?_⟩
  · rw [hanswer]
    exact hreply
  · rw [hanswer, contents_concat_of_idle hkept]
    exact h
  · rw [hanswer]
    exact ⟨rfl, rfl⟩

theorem follows_of_outside (hindex : call.index? = some index) (htruth : isTruthValue index = false)
    (hout : ∀ i < n, place? index ≠ some (i : Int)) : Follows s n calls a call := by
  have hout' : ∀ i < (contents s n calls).length, place? index ≠ some (i : Int) := by
    simpa using hout
  obtain ⟨f, hrun, hreply⟩ := h.run_error hindex htruth hout'
  refine follows_of_idle h (answer_error hrun) (fun i hi => ?_) hreply
  cases call <;> cases hindex
  · rfl
  · exact if_neg (hout i hi)

theorem follows_get (htruth : isTruthValue index = false) : Follows s n calls a (.get index) := by
  by_cases hin : ∃ i < n, place? index = some (i : Int)
  · obtain ⟨i, hi, hplace⟩ := hin
    have hv : (contents s n calls)[i]? = some (stored s calls i) := getElem?_contents hi
    have hrun : a.run (.get index) = .ok (a, stored s calls i) := by
      simp only [run, h.get_eq hplace hv, bind, Except.bind, pure, Except.pure]
    exact follows_of_idle h (answer_ok hrun) (fun _ _ => rfl) (.read hplace hv)
  · push Not at hin
    exact follows_of_outside h rfl htruth hin

theorem follows_set (htruth : isTruthValue index = false) : Follows s n calls a (.set index v) := by
  by_cases hin : ∃ i < n, place? index = some (i : Int)
  · obtain ⟨i, hi, hplace⟩ := hin
    have hlt : i < (contents s n calls).length := by simpa using hi
    cases hkeep : s.keep v with
    | ok w =>
      obtain ⟨a', hset, hholds, hframe⟩ := h.set_ok hplace hlt hkeep
      have hrun : a.run (.set index v) = .ok (a', .none) := by
        simp only [run, hset, bind, Except.bind, pure, Except.pure]
      refine ⟨?_, fun _ => ?_, fun _ => ?_⟩
      · rw [answer_ok hrun]
        exact .stored hplace hlt hkeep
      · rw [answer_ok hrun, contents_concat_set hplace hkeep]
        exact hholds
      · rw [answer_ok hrun]
        exact hframe
    | error f =>
      have hrun : a.run (.set index v) = .error f := by
        simp only [run, h.set_error hplace hlt hkeep, bind, Except.bind]
      refine follows_of_idle h (answer_error hrun) (fun j _ => ?_) (.unfit hplace hlt hkeep)
      simp [ArrayCall.kept?, hkeep, Except.toOption]
  · push Not at hin
    exact follows_of_outside h rfl htruth hin

/-- An array that holds what calls left follows the next one. -/
theorem follows (hcall : call.IsPlaced) : Follows s n calls a call := by
  obtain ⟨b, hb, hlength, helements, htoList, hname⟩ := h.exists_buffer
  have hrequire : a.require = .ok b := by simp only [require, hb]
  -- what a call gives that only reads
  have hreading {v : Value} (hrun : a.run call = .ok (a, v))
      (hkept : ∀ i < n, call.kept? s i = none)
      (hreply : Reply s (contents s n calls) call (.ok v)) : Follows s n calls a call :=
    follows_of_idle h (answer_ok hrun) hkept hreply
  cases call with
  | get index => exact follows_get h (hcall index rfl)
  | set index v => exact follows_set h (hcall index rfl)
  | length =>
    refine hreading ?_ (fun _ _ => rfl) .length
    simp only [run, FixedArray.length, hrequire, hlength, bind, Except.bind, pure, Except.pure]
  | isCreated =>
    refine hreading ?_ (fun _ _ => rfl) .isCreated
    simp only [run, FixedArray.isCreated, hb, Option.isSome_some, pure, Except.pure]
  | toList =>
    refine hreading ?_ (fun _ _ => rfl) .toList
    simp only [run, FixedArray.toList, hrequire, htoList, bind, Except.bind, pure, Except.pure]
  | elements =>
    refine hreading ?_ (fun _ _ => rfl) .elements
    simp only [run, FixedArray.elements, hrequire, helements, bind, Except.bind, pure, Except.pure]
  | shown => exact hreading rfl (fun _ _ => rfl) (.shown _)
  | view =>
    refine hreading ?_ (fun _ _ => rfl) .view
    simp only [run, hrequire, hname, htoList, bind, Except.bind, pure, Except.pure]
  | setView index v =>
    have hrun : a.run (.setView index v) =
        .error ⟨.badValue, "assignment destination is read-only"⟩ := by
      simp only [run, setView, hrequire, bind, Except.bind]
      rfl
    exact follows_of_idle h (answer_error hrun) (fun _ _ => rfl) (.readOnly index v)
  | dispose =>
    have hrun : a.run .dispose = .ok ({ a with allocator := .none, buffer := none }, .none) := by
      simp only [run, dispose, hrequire, bind, Except.bind, pure, Except.pure]
    refine ⟨?_, fun hne => absurd rfl hne, fun hne => absurd rfl hne⟩
    rw [answer_ok hrun]
    exact .disposed

end Follow

/-- Disposing of an array with storage makes it one that was never allocated. -/
theorem answer_dispose (h : a.Holds s cells) : (a.answer .dispose).1 = unallocated a.element := by
  obtain ⟨b, hb, -⟩ := h.exists_buffer
  have hrun : a.run .dispose = .ok (unallocated a.element, .none) := by
    simp only [run, dispose, require, hb, bind, Except.bind, pure, Except.pure, unallocated]
  rw [answer_ok hrun]

/-- An array that was never allocated stays as it is and refuses what needs storage. -/
theorem answer_unallocated : ((unallocated element).answer call).1 = unallocated element ∧
    (call.isAccess = true →
      ((unallocated element).answer call).2 = .error (disposedFault "NativeArray")) := by
  cases haccess : call.isAccess with
  | true =>
    rw [answer_error (run_of_released rfl haccess)]
    exact ⟨rfl, fun _ => rfl⟩
  | false =>
    refine ⟨?_, nofun⟩
    cases call <;> cases haccess <;> rfl

theorem after_unallocated : (unallocated element).after calls = unallocated element := by
  induction calls using List.reverseRecOn with
  | nil => rfl
  | append_singleton calls call ih => rw [after_concat, ih, answer_unallocated.1]

theorem holds_after (h : a.Holds s (contents s n [])) (hcalls : ∀ c ∈ calls, c.IsPlaced)
    (hnot : .dispose ∉ calls) : (a.after calls).Holds s (contents s n calls) ∧
      (a.after calls).element = a.element ∧ (a.after calls).allocator = a.allocator := by
  induction calls using List.reverseRecOn with
  | nil => exact ⟨h, rfl, rfl⟩
  | append_singleton calls call ih =>
    have hne : call ≠ .dispose := by
      rintro rfl
      simp at hnot
    obtain ⟨hholds, helement, hallocator⟩ :=
      ih (fun c hc => hcalls c (by simp [hc])) (fun hmem => hnot (by simp [hmem]))
    have hfollows := follows hholds (hcalls call (by simp))
    rw [after_concat]
    exact ⟨hfollows.holds hne, (hfollows.frame hne).1.trans helement,
      (hfollows.frame hne).2.trans hallocator⟩

/-- Calls among which one disposes of an array leave it without storage. -/
theorem after_of_dispose (h : a.Holds s (contents s n [])) (hcalls : ∀ c ∈ calls, c.IsPlaced)
    (hmem : .dispose ∈ calls) : a.after calls = unallocated a.element := by
  induction calls using List.reverseRecOn with
  | nil => cases hmem
  | append_singleton calls call ih =>
    have hplaced : ∀ c ∈ calls, c.IsPlaced := fun c hc => hcalls c (by simp [hc])
    rw [after_concat]
    by_cases hbefore : .dispose ∈ calls
    · rw [ih hplaced hbefore, answer_unallocated.1]
    · obtain ⟨hholds, helement, -⟩ := holds_after h hplaced hbefore
      have hcall : ArrayCall.dispose = call := by simpa [hbefore] using hmem
      subst hcall
      rw [answer_dispose hholds, helement]

theorem eq_toNat_of_lengthOf {i : Int} (h : lengthOf p s (.int i) = .ok n) : n = i.toNat := by
  unfold lengthOf at h
  simp only at h
  split at h
  · cases h
  split at h
  · cases h
  split at h
  · exact (Except.ok.inj h).symm
  · cases h

theorem place_of_lengthOf (h : lengthOf p s length = .ok n) :
    ∃ i, place? length = some i ∧ n = i.toNat := by
  cases length with
  | int i => exact ⟨i, rfl, eq_toNat_of_lengthOf h⟩
  | number kind x =>
    cases x with
    | int i => exact ⟨i, rfl, eq_toNat_of_lengthOf h⟩
    | bool | float => cases h
  | member cls base name value =>
    cases hnumeric : (Value.member cls base name value).numeric? with
    | none => simp [lengthOf, hnumeric] at h
    | some x =>
      cases x with
      | real x => simp [lengthOf, hnumeric] at h
      | whole i =>
        refine ⟨i, by simp [place?, isTruthValue, hnumeric], eq_toNat_of_lengthOf (p := p) (s := s) ?_⟩
        simpa only [lengthOf, hnumeric] using h
  | _ => cases h

/-- A new array holds fresh elements. -/
theorem holds_create (h : create p element length given = .ok a) :
    ∃ (n : Nat) (s : Storage), place? length = some (n : Int) ∧
      Storage.ofElement p element = .ok s ∧ a.Holds s (contents s n []) ∧ a.element = element := by
  obtain ⟨_, hnonneg, h⟩ := bind_eq_ok.mp h
  obtain ⟨allocator, -, h⟩ := bind_eq_ok.mp h
  obtain ⟨s, hs, h⟩ := bind_eq_ok.mp h
  obtain ⟨n, hn, h⟩ := bind_eq_ok.mp h
  cases h
  obtain ⟨i, hi, rfl⟩ := place_of_lengthOf hn
  have hi' : 0 ≤ i := by
    by_contra hneg
    simp [checkNonNegative, numeric?_of_place hi, show i < 0 by omega] at hnonneg
  refine ⟨i.toNat, s, by rw [hi, Int.toNat_of_nonneg hi'], hs, ?_, rfl⟩
  exact ⟨_, rfl, Buffer.storage_fresh .., (Buffer.elements_fresh ..).trans contents_nil.symm⟩

/-- An array is a store of fixed length with checked places. After any calls whose indices are no
truth values it has as many elements as at first, each of them the one kept last at its place or a
fresh one, and the next call is answered from these. After it has been disposed of it is as if never
allocated, and then it refuses whatever needs storage. A refused call changes nothing. -/
theorem answers_of_stored (hcreate : create p element length given = .ok a)
    (hcalls : ∀ c ∈ calls, c.IsPlaced) (hcall : call.IsPlaced) :
    ∃ (n : Nat) (s : Storage), place? length = some (n : Int) ∧
      Storage.ofElement p element = .ok s ∧
      (.dispose ∉ calls → (a.after calls).length = .ok n ∧
        (a.after calls).elements = .ok (contents s n calls) ∧
        (a.after calls).allocator = a.allocator ∧
        Reply s (contents s n calls) call ((a.after calls).answer call).2) ∧
      (.dispose ∈ calls → a.after calls = unallocated element) ∧
      (∀ f, ((a.after calls).answer call).2 = .error f →
        ((a.after calls).answer call).1 = a.after calls) ∧
      (unallocated element).after calls = unallocated element ∧
      (call.isAccess = true →
        ((unallocated element).answer call).2 = .error (disposedFault "NativeArray")) := by
  obtain ⟨n, s, hn, hs, hholds, rfl⟩ := holds_create hcreate
  refine ⟨n, s, hn, hs, fun hnot => ?_, after_of_dispose hholds hcalls, fun f hf => ?_,
    after_unallocated, answer_unallocated.2⟩
  · obtain ⟨hafter, -, hallocator⟩ := holds_after hholds hcalls hnot
    obtain ⟨b, hb, hlength, helements, -⟩ := hafter.exists_buffer
    have hrequire : (a.after calls).require = .ok b := by simp only [require, hb]
    refine ⟨?_, ?_, hallocator, (follows hafter hcall).reply⟩
    · unfold FixedArray.length
      rw [length_contents] at hlength
      rw [hrequire, ← hlength]
      rfl
    · unfold elements
      rw [hrequire, ← helements]
      rfl
  · unfold answer at hf ⊢
    split at hf
    · cases hf
    · rfl

/-- Calls of an array of eight-bit numbers: some store, one has no such place, one stores what does
not fit, and one has an index that no register holds. -/
def narrowCalls : List ArrayCall :=
  [.set (.int 1) (.int 7), .set (.int (-1)) (.int 5), .set (.int 1) (.int 300),
    .get (.int (2 ^ 70)), .set (.number .uint8 (.int 2)) (.float (.finite false 5 (-1)))]

/-- What fits is kept, and a half is cut off. -/
theorem answers_narrowCalls :
    ∃ a, create {} (.hint (.cls (.number .int8))) (.int 3) (.allocator .temp) = .ok a ∧
      (a.after narrowCalls).elements =
        .ok [.number .int8 (.int 0), .number .int8 (.int 7), .number .int8 (.int 2)] ∧
      ((a.after narrowCalls).answer (.get (.int 3))).2 = .error (rangeFault (.int 3) 3) ∧
      (a.after (narrowCalls ++ [.dispose])).answer .dispose =
        (unallocated (.hint (.cls (.number .int8))), .error (disposedFault "NativeArray")) := by
  have hplaced : ∀ c ∈ narrowCalls, c.IsPlaced := by
    simp only [narrowCalls, List.forall_mem_cons]
    refine ⟨?_, ?_, ?_, ?_, ?_, nofun⟩ <;> rintro index ⟨⟩ <;> rfl
  have hget : (ArrayCall.get (.int 3)).IsPlaced := by
    rintro index ⟨⟩
    rfl
  have hdispose : ArrayCall.dispose.IsPlaced := nofun
  have hcreate : create {} (.hint (.cls (.number .int8))) (.int 3) (.allocator .temp) =
      .ok ⟨.hint (.cls (.number .int8)), .temp, some (.fresh (.numbers .int8) 3)⟩ := rfl
  have hcalls : ∀ c ∈ narrowCalls ++ [.dispose], c.IsPlaced := by
    intro c hc
    rcases List.mem_append.mp hc with hc | hc
    · exact hplaced c hc
    · rw [List.mem_singleton.mp hc]
      exact hdispose
  refine ⟨_, hcreate, ?_, ?_, ?_⟩
  · obtain ⟨n, s, hn, hs, hkept, -⟩ := answers_of_stored hcreate hplaced hget
    cases hn
    cases hs
    exact (hkept (by simp [narrowCalls])).2.1
  · obtain ⟨n, s, hn, hs, hkept, -⟩ := answers_of_stored hcreate hplaced hget
    cases hn
    cases hs
    obtain ⟨-, -, -, hreply⟩ := hkept (by simp [narrowCalls])
    generalize (FixedArray.answer _ (.get (.int 3))).2 = reply at hreply ⊢
    cases hreply with
    | read hi hv =>
      cases hi
      simp at hv
    | outside hindex =>
      cases hindex
      simp
    | noPlace hindex hi =>
      cases hindex
      cases hi
  · obtain ⟨-, -, -, -, -, hgone, -, -, hrefused⟩ := answers_of_stored hcreate hcalls hdispose
    rw [hgone (by simp)]
    exact Prod.ext answer_unallocated.1 (hrefused rfl)

/-- A truth value is let through as an index and stores at every place, so that not every element is
the one that was stored last. -/
theorem not_all_stored :
    ¬∀ (p : Platform) (element : Value) (length i : Nat) (s : Storage) (a : FixedArray)
        (calls : List ArrayCall),
      create p element (.int length) (.allocator .persistent) = .ok a →
      Storage.ofElement p element = .ok s → .dispose ∉ calls → i < length →
      (a.after calls).get (.int i) = .ok (stored s calls i) := by
  intro h
  have hread := h {} (.hint (.cls (.builtin "int"))) 2 0 (.numbers .int64)
    ⟨.hint (.cls (.builtin "int")), .persistent, some (.fresh (.numbers .int64) 2)⟩
    [.set (.int 0) (.int 7), .set (.bool true) (.int 5)] rfl rfl (by simp) (by decide)
  cases hread

end FixedArray

end StructForge.Container

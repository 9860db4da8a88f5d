import StructForge.Container.Calls
import StructForge.Proofs.Steps

/-! # Containers without storage

A container that has no storage refuses every call that needs some, and no call gives it storage
again. Releasing takes the storage of a container that has some. -/

namespace StructForge.Container

open Live

def ArrayCall.isAccess : ArrayCall → Bool
  | .isCreated | .shown => false
  | _ => true

def MapCall.isAccess {κ : Type} : MapCall κ → Bool
  | .isCreated | .shown => false
  | _ => true

namespace FixedArray

variable {a a' : FixedArray} {call : ArrayCall} {v : Value}

theorem require_of_released (h : a.isCreated = false) :
    a.require = .error (disposedFault "NativeArray") := by
  unfold isCreated at h
  rw [Option.isSome_eq_false_iff, Option.isNone_iff_eq_none] at h
  unfold require
  rw [h]

/-- An array without storage refuses what needs some. -/
theorem run_of_released (h : a.isCreated = false) (hcall : call.isAccess = true) :
    a.run call = .error (disposedFault "NativeArray") := by
  have hrequire := require_of_released h
  cases call with
  | isCreated | shown => cases hcall
  | get | set | length | toList | elements | dispose | view | setView =>
    simp [run, get, set, length, toList, elements, dispose, setView, hrequire, bind, Except.bind]

/-- No call gives storage to an array without it. -/
theorem isCreated_of_run (h : a.run call = .ok (a', v)) (hcreated : a'.isCreated = true) :
    a.isCreated = true := by
  by_contra hreleased
  rw [Bool.not_eq_true] at hreleased
  cases hcall : call.isAccess with
  | true =>
    rw [run_of_released hreleased hcall] at h
    cases h
  | false =>
    cases call <;> cases hcall <;> cases h <;> rw [hreleased] at hcreated <;> cases hcreated

theorem dispose_of_created (h : a.isCreated = true) :
    ∃ a', a.dispose = .ok a' ∧ a'.isCreated = false := by
  obtain ⟨b, hb⟩ := Option.isSome_iff_exists.mp h
  refine ⟨{ a with allocator := .none, buffer := none }, ?_, rfl⟩
  unfold dispose require
  rw [hb]
  rfl

end FixedArray

namespace GrowingMap

variable {κ : Type} [Key κ] {m m' : GrowingMap κ} {call : MapCall κ} {v : MapReply κ}

omit [Key κ] in
theorem require_of_released (h : m.isCreated = false) :
    m.require = .error (disposedFault "NativeHashMap") := by
  unfold isCreated at h
  rw [Option.isSome_eq_false_iff, Option.isNone_iff_eq_none] at h
  unfold require
  rw [h]

/-- A map without storage refuses what needs some. -/
theorem run_of_released (h : m.isCreated = false) (hcall : call.isAccess = true) :
    m.run call = .error (disposedFault "NativeHashMap") := by
  have hrequire := require_of_released h
  cases call with
  | isCreated | shown => cases hcall
  | add | tryAdd | getD | get | remove | contains | clear | entries | keys | values | size
  | capacity | dispose =>
    simp [run, add, tryAdd, getD, get, remove, contains, clear, size, capacity?, dispose, hrequire,
      bind, Except.bind]

/-- No call gives storage to a map without it. -/
theorem isCreated_of_run (h : m.run call = .ok (m', v)) (hcreated : m'.isCreated = true) :
    m.isCreated = true := by
  by_contra hreleased
  rw [Bool.not_eq_true] at hreleased
  cases hcall : call.isAccess with
  | true =>
    rw [run_of_released hreleased hcall] at h
    cases h
  | false =>
    cases call <;> cases hcall <;> cases h <;> rw [hreleased] at hcreated <;> cases hcreated

omit [Key κ] in
theorem dispose_of_created (h : m.isCreated = true) :
    ∃ m', m.dispose = .ok m' ∧ m'.isCreated = false := by
  obtain ⟨es, hes⟩ := Option.isSome_iff_exists.mp h
  refine ⟨{ m with allocator := .none, capacity := .int 0, entries := none }, ?_, rfl⟩
  unfold dispose require
  rw [hes]
  rfl

end GrowingMap

end StructForge.Container

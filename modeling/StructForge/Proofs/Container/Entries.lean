import StructForge.Container.GrowingMap
import StructForge.Proofs.Container.Elements

/-! # Entries of maps

A map with room takes an entry with a new key at its end and keeps its capacity; it refuses an entry
whose key it has. What a map with storage is asked about a key is answered from its entries. -/

namespace StructForge.Container

open Live

variable {κ : Type} [Key κ]

def duplicateFault (k : κ) : Fault :=
  ⟨.badValue, s!"An item with the same key has already been added: {Key.shown k}"⟩

def missingFault (k : κ) : Fault := ⟨.missingKey, Key.shown k⟩

namespace GrowingMap

variable {m : GrowingMap κ} {es : List (κ × Value)} {n : Nat} {k : κ} {v key value : Value}

omit [Key κ] in
theorem create_natCast : create key value (.int n) (.allocator .persistent) =
    .ok (⟨key, value, .persistent, .int n, some []⟩ : GrowingMap κ) := by
  unfold create
  rw [checkNonNegative_natCast]
  rfl

theorem tryAdd_eq (hentries : m.entries = some es) (hkey : Key.unhashable? k = none) :
    m.tryAdd k v = if hasKey es k then .ok (m, false) else
      .ok ({ m with
        capacity := if fills es.length m.capacity then grown m.capacity else m.capacity
        entries := some (es ++ [(k, v)]) }, true) := by
  unfold tryAdd require checkKey
  rw [hentries, hkey]
  rfl

/-- An entry with a new key goes to the end of a map that is not full. -/
theorem add_new (hentries : m.entries = some es) (hcapacity : m.capacity = .int n)
    (hroom : es.length < n) (hkey : Key.unhashable? k = none) (hnew : hasKey es k = false) :
    m.add k v = .ok { m with entries := some (es ++ [(k, v)]) } := by
  have hfills : fills es.length m.capacity = false := by
    have hlt : ¬(n : Int) ≤ es.length := by omega
    rw [hcapacity]
    simp [fills, Value.numeric?, hlt]
  unfold add
  rw [tryAdd_eq hentries hkey, hnew, hfills]
  rfl

theorem add_duplicate (hentries : m.entries = some es) (hkey : Key.unhashable? k = none)
    (hold : hasKey es k = true) : m.add k v = .error (duplicateFault k) := by
  unfold add
  rw [tryAdd_eq hentries hkey, hold]
  rfl

theorem get_of_some (hentries : m.entries = some es) (hkey : Key.unhashable? k = none)
    (hvalue : valueAt? es k = some v) : m.get k = .ok v := by
  unfold get require checkKey
  rw [hentries, hkey]
  simp only [bind, Except.bind, hvalue]
  rfl

theorem get_of_none (hentries : m.entries = some es) (hkey : Key.unhashable? k = none)
    (hvalue : valueAt? es k = none) : m.get k = .error (missingFault k) := by
  unfold get require checkKey
  rw [hentries, hkey]
  simp only [bind, Except.bind, hvalue]
  rfl

theorem getD_eq (hentries : m.entries = some es) (hkey : Key.unhashable? k = none) :
    m.getD k v = .ok ((valueAt? es k).getD v) := by
  unfold getD require checkKey
  rw [hentries, hkey]
  rfl

theorem contains_eq (hentries : m.entries = some es) (hkey : Key.unhashable? k = none) :
    m.contains k = .ok (hasKey es k) := by
  unfold contains require checkKey
  rw [hentries, hkey]
  rfl

theorem remove_eq (hentries : m.entries = some es) (hkey : Key.unhashable? k = none) :
    m.remove k = if hasKey es k then
        .ok ({ m with entries := some (es.eraseP fun e => Key.isFor e.1 k) }, true)
      else .ok (m, false) := by
  unfold remove require checkKey
  rw [hentries, hkey]
  cases es <;> rfl

end GrowingMap

end StructForge.Container

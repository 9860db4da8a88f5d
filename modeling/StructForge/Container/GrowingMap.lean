import StructForge.Container.Allocator
import StructForge.Container.Key
import StructForge.Container.Storage
import StructForge.Number.Arithmetic

/-! # Maps with a capacity

A map keeps its entries in the order in which their keys were added. Of two keys that are one for
the map, the one that came first stays. The capacity doubles when an entry is added to a full map,
and never shrinks. -/

namespace StructForge.Container

open Live Number

/-- A map; without entries it has no storage. -/
structure GrowingMap (κ : Type) where
  key : Value
  value : Value
  allocator : Allocator
  capacity : Value
  entries : Option (List (κ × Value))

def fills (n : Nat) (capacity : Value) : Bool :=
  match capacity.numeric? with
  | some (.whole i) => i ≤ n
  | some (.real x) => x.ltInt n || x.toInt? == some (n : Int)
  | none => false

/-- Twice a number. A number of fixed width keeps its kind, and a truth value becomes a whole
number. -/
def twice : Value → Value
  | .bool b => .int (2 * Scalar.ofBool b)
  | .int i => .int (2 * i)
  | .float x => .float (x.scale 2)
  | .number .bool x => .number .int64 (.int (match x with
    | .bool b => 2 * Scalar.ofBool b
    | _ => 0))
  | .number k (.int i) => .number k (.int (k.wrap (2 * i)))
  | .number k (.float x) => .number k (.float ((k.format?.getD .double).round (x.scale 2)))
  | .member _ _ _ v => match v.numeric? with
    | some (.whole i) => .int (2 * i)
    | _ => v
  | v => v

def exceedsOne (v : Value) : Bool :=
  match v.numeric? with
  | some (.whole i) => 1 < i
  | some (.real x) => match x with
    | .nan => false
    | x => !(x.ltInt 1 || x.toInt? == some 1)
  | none => false

def grown (capacity : Value) : Value :=
  let doubled := twice capacity
  if exceedsOne doubled then doubled else .int 1

section Keys

variable {κ : Type} [Key κ]

def checkKey (k : κ) : Except Fault Unit :=
  match Key.unhashable? k with
  | some name => .error ⟨.badType, s!"unhashable type: '{name}'"⟩
  | none => .ok ()

def hasKey (entries : List (κ × Value)) (k : κ) : Bool := entries.any fun e => Key.isFor e.1 k

def valueAt? (entries : List (κ × Value)) (k : κ) : Option Value :=
  (entries.find? fun e => Key.isFor e.1 k).map (·.2)

namespace GrowingMap

def create (key value capacity : Value) (given : Given) : Except Fault (GrowingMap κ) := do
  checkNonNegative "Capacity" capacity
  return ⟨key, value, ← given.check, capacity, some []⟩

def unallocated (key value : Value) : GrowingMap κ := ⟨key, value, .none, .int 0, none⟩

def isCreated (m : GrowingMap κ) : Bool := m.entries.isSome

def require (m : GrowingMap κ) : Except Fault (List (κ × Value)) :=
  match m.entries with
  | some es => .ok es
  | none => .error (disposedFault "NativeHashMap")

def capacity? (m : GrowingMap κ) : Except Fault Value := do
  let _ ← m.require
  return m.capacity

def size (m : GrowingMap κ) : Except Fault Nat := do return (← m.require).length

def contains (m : GrowingMap κ) (k : κ) : Except Fault Bool := do
  let es ← m.require
  checkKey k
  return hasKey es k

/-- Adds an entry unless its key is there; whether it was added is returned too. -/
def tryAdd (m : GrowingMap κ) (k : κ) (v : Value) : Except Fault (GrowingMap κ × Bool) := do
  let es ← m.require
  checkKey k
  if hasKey es k then return (m, false)
  let capacity := if fills es.length m.capacity then grown m.capacity else m.capacity
  return ({ m with capacity, entries := some (es ++ [(k, v)]) }, true)

def add (m : GrowingMap κ) (k : κ) (v : Value) : Except Fault (GrowingMap κ) := do
  match ← m.tryAdd k v with
  | (m, true) => return m
  | (_, false) =>
    throw ⟨.badValue, s!"An item with the same key has already been added: {Key.shown k}"⟩

def getD (m : GrowingMap κ) (k : κ) (fallback : Value) : Except Fault Value := do
  let es ← m.require
  checkKey k
  return (valueAt? es k).getD fallback

def get (m : GrowingMap κ) (k : κ) : Except Fault Value := do
  let es ← m.require
  checkKey k
  match valueAt? es k with
  | some v => return v
  | none => throw ⟨.missingKey, Key.shown k⟩

/-- Removes the entry of a key; whether it was there is returned too. An empty map does not look at
the key. -/
def remove (m : GrowingMap κ) (k : κ) : Except Fault (GrowingMap κ × Bool) := do
  let es ← m.require
  if es.isEmpty then return (m, false)
  checkKey k
  if hasKey es k then
    return ({ m with entries := some (es.eraseP fun e => Key.isFor e.1 k) }, true)
  return (m, false)

def clear (m : GrowingMap κ) : Except Fault (GrowingMap κ) := do
  let _ ← m.require
  return { m with entries := some [] }

def dispose (m : GrowingMap κ) : Except Fault (GrowingMap κ) := do
  let _ ← m.require
  return { m with allocator := .none, capacity := .int 0, entries := none }

def shown (m : GrowingMap κ) : String :=
  let inner := match m.entries with
    | some es =>
      let entries := es.map fun (e : κ × Value) => Key.shown e.1 ++ ": " ++ e.2.shown
      "\x7b" ++ ", ".intercalate entries ++ "\x7d"
    | none => "unallocated"
  s!"NativeHashMap({elementName m.key}, {elementName m.value}, {inner})"

end GrowingMap

end Keys

end StructForge.Container

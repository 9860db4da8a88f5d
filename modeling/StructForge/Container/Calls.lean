import StructForge.Container.FixedArray
import StructForge.Container.GrowingMap

/-! # Calls

The operations of containers as data, with one reply for each. A refused call leaves the container
as it was. -/

namespace StructForge.Container

open Live

inductive ArrayCall where
  | get (index : Value)
  | set (index v : Value)
  | length
  | isCreated
  | toList
  | elements
  | shown
  | dispose
  | view
  | setView (index v : Value)
  deriving Repr

def ArrayCall.ofName? (name : String) (args : List Value) : Option ArrayCall :=
  match name, args with
  | "get", [i] => some (.get i)
  | "set", [i, v] => some (.set i v)
  | "len", [] | "length", [] => some .length
  | "is_created", [] => some .isCreated
  | "to_list", [] => some .toList
  | "iter", [] => some .elements
  | "repr", [] => some .shown
  | "dispose", [] => some .dispose
  | "view", [] => some .view
  | "view_set", [i, v] => some (.setView i v)
  | _, _ => none

def FixedArray.run (a : FixedArray) : ArrayCall → Except Fault (FixedArray × Value)
  | .get i => do return (a, ← a.get i)
  | .set i v => do return (← a.set i v, .none)
  | .length => do return (a, .int (← a.length))
  | .isCreated => return (a, .bool a.isCreated)
  | .toList => do return (a, .list (← a.toList))
  | .elements => do return (a, .list (← a.elements))
  | .shown => return (a, .text a.shown)
  | .dispose => do return (← a.dispose, .none)
  | .view => do
    let b ← a.require
    return (a, .list [.text b.storage.name, .bool false, .list b.toList])
  | .setView _ _ => do
    a.setView
    return (a, .none)

inductive MapCall (κ : Type) where
  | add (k : κ) (v : Value)
  | tryAdd (k : κ) (v : Value)
  | getD (k : κ) (fallback : Value)
  | get (k : κ)
  | remove (k : κ)
  | contains (k : κ)
  | clear
  | entries
  | keys
  | values
  | size
  | capacity
  | isCreated
  | shown
  | dispose

inductive MapReply (κ : Type) where
  | nothing
  | truth (b : Bool)
  | count (n : Nat)
  | value (v : Value)
  | keys (ks : List κ)
  | values (vs : List Value)
  | entries (es : List (κ × Value))
  | text (s : String)

def MapCall.ofName? (name : String) (args : List Value) : Option (MapCall Value) :=
  match name, args with
  | "add", [k, v] => some (.add k v)
  | "try_add", [k, v] => some (.tryAdd k v)
  | "get", [k] => some (.getD k .none)
  | "get", [k, v] => some (.getD k v)
  | "getitem", [k] => some (.get k)
  | "remove", [k] => some (.remove k)
  | "contains", [k] => some (.contains k)
  | "clear", [] => some .clear
  | "items", [] => some .entries
  | "keys", [] | "iter", [] => some .keys
  | "values", [] => some .values
  | "len", [] => some .size
  | "capacity", [] => some .capacity
  | "is_created", [] => some .isCreated
  | "repr", [] => some .shown
  | "dispose", [] => some .dispose
  | _, _ => none

def MapReply.toValue : MapReply Value → Value
  | .nothing => .none
  | .truth b => .bool b
  | .count n => .int n
  | .value v => v
  | .keys ks => .list ks
  | .values vs => .list vs
  | .entries es => .list (es.map fun (k, v) => .tuple [k, v])
  | .text s => .text s

def GrowingMap.run {κ : Type} [Key κ] (m : GrowingMap κ) :
    MapCall κ → Except Fault (GrowingMap κ × MapReply κ)
  | .add k v => do return (← m.add k v, .nothing)
  | .tryAdd k v => do
    let (m, added) ← m.tryAdd k v
    return (m, .truth added)
  | .getD k fallback => do return (m, .value (← m.getD k fallback))
  | .get k => do return (m, .value (← m.get k))
  | .remove k => do
    let (m, removed) ← m.remove k
    return (m, .truth removed)
  | .contains k => do return (m, .truth (← m.contains k))
  | .clear => do return (← m.clear, .nothing)
  | .entries => do return (m, .entries (← m.require))
  | .keys => do return (m, .keys ((← m.require).map (·.1)))
  | .values => do return (m, .values ((← m.require).map (·.2)))
  | .size => do return (m, .count (← m.size))
  | .capacity => do return (m, .value (← m.capacity?))
  | .isCreated => return (m, .truth m.isCreated)
  | .shown => return (m, .text m.shown)
  | .dispose => do return (← m.dispose, .nothing)

end StructForge.Container

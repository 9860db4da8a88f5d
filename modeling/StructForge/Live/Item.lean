import StructForge.Fault
import StructForge.Live.Value

/-! # Parts of values

What can be asked of a value besides itself: its attributes, its size, its items and its entries,
and the value that it becomes when one of its items is changed. -/

namespace StructForge.Live.Value

open Number

def attributeFault (v : Value) (name : String) : Fault :=
  match v with
  | .hint (.cls c) =>
    if c.enumBase?.isSome then ⟨.missingAttribute, name⟩
    else ⟨.missingAttribute, s!"type object '{c.name}' has no attribute '{name}'"⟩
  | v => ⟨.missingAttribute, s!"'{v.typeName}' object has no attribute '{name}'"⟩

def callFault (v : Value) : Fault := ⟨.badType, s!"'{v.typeName}' object is not callable"⟩

def singleAttribute? (components : List Binary) (name : String) : Option Value :=
  ((["x", "y", "z"].zip components).lookup name).map .float

/-- An attribute of a value: a component of a vector, the value of a member of an enum, or a field of
an object. -/
def getAttribute (v : Value) (name : String) : Except Fault Value :=
  let found := match v, name with
    | .vector2 x _, "x" => some x
    | .vector2 _ y, "y" => some y
    | .vector3 x _ _, "x" => some x
    | .vector3 _ y _, "y" => some y
    | .vector3 _ _ z, "z" => some z
    | .single components, name => singleAttribute? components name
    | .member _ _ _ value, "value" => some value
    | .object _ fields, name => fields.lookup name
    | _, _ => .none
  match found with
  | some a => .ok a
  | .none => .error (v.attributeFault name)

/-- The number of bits that are set. The fuel bounds the length of the number. -/
def bitCount : Nat → Nat → Nat
  | 0, _ => 0
  | fuel + 1, n => n % 2 + bitCount fuel (n / 2)

def size (v : Value) : Except Fault Nat :=
  match v with
  | .text s => .ok s.length
  | .list items | .tuple items => .ok items.length
  | .dict entries => .ok entries.length
  | .single components => .ok components.length
  | .member _ .str _ (.text s) => .ok s.length
  | .member cls base _ (.int i) =>
    if base.isFlag then .ok (bitCount (i.natAbs.log2 + 1) i.natAbs)
    else .error ⟨.badType, s!"object of type '{cls.name}' has no len()"⟩
  | v => .error ⟨.badType, s!"object of type '{v.typeName}' has no len()"⟩

def charAt (s : String) (i : Nat) : Except Fault Value :=
  match s.toList[i]? with
  | some c => .ok (.text (String.singleton c))
  | .none => .error ⟨.badIndex, "string index out of range"⟩

/-- The item of a value at an index below its size. A dictionary is asked for the index as a key. -/
def item (v : Value) (i : Nat) : Except Fault Value :=
  match v with
  | .text s | .member _ .str _ (.text s) => charAt s i
  | .list items =>
    match items[i]? with
    | some a => .ok a
    | .none => .error ⟨.badIndex, "list index out of range"⟩
  | .tuple items =>
    match items[i]? with
    | some a => .ok a
    | .none => .error ⟨.badIndex, "tuple index out of range"⟩
  | .dict entries =>
    match entries.find? (·.1.equals (.int i)) with
    | some (_, a) => .ok a
    | .none => .error ⟨.missingKey, toString i⟩
  | v => .error ⟨.badType, s!"'{v.typeName}' object is not subscriptable"⟩

def entries (v : Value) : Except Fault (List (Value × Value)) :=
  match v with
  | .dict entries => .ok entries
  | v => .error (v.attributeFault "items")

def index? : Value → Option Int
  | .bool b => some (Scalar.ofBool b)
  | .int i | .number _ (.int i) => some i
  | .member _ base _ v => if base.isInt then v.index? else .none
  | _ => .none

/-- Puts an item into a list. A negative index counts from the end. -/
def setListItem (items : List Value) (key v : Value) : Except Fault Value :=
  match key.index? with
  | .none =>
    .error ⟨.badType, s!"list indices must be integers or slices, not {key.typeName}"⟩
  | some i =>
    let place := if i < 0 then i + items.length else i
    if i < -twoTo 63 || twoTo 63 ≤ i then
      .error ⟨.badIndex, s!"cannot fit '{key.typeName}' into an index-sized integer"⟩
    else if 0 ≤ place && place < items.length then .ok (.list (items.set place.toNat v))
    else .error ⟨.badIndex, "list assignment index out of range"⟩

/-- Puts an entry into the entries of a dictionary. The key of an entry that is there stays. -/
def putEntry (key v : Value) : List (Value × Value) → List (Value × Value)
  | [] => [(key, v)]
  | (k, w) :: rest => if k.equals key then (k, v) :: rest else (k, w) :: putEntry key v rest

/-- The dictionary of entries, some of which may have equal keys. -/
def ofEntries (entries : List (Value × Value)) : Value :=
  .dict (entries.foldl (fun kept (k, v) => putEntry k v kept) [])

def setItem (container key v : Value) : Except Fault Value :=
  match container with
  | .list items => setListItem items key v
  | .dict entries =>
    match key.unhashable? with
    | some name => .error ⟨.badType, s!"unhashable type: '{name}'"⟩
    | .none => .ok (.dict (putEntry key v entries))
  | w => .error ⟨.badType, s!"'{w.typeName}' object does not support item assignment"⟩

end StructForge.Live.Value

import StructForge.Struct.Scope

/-! # Contents of slots

The content of a slot of a struct is an array, a map, or a value. A value is held in a cell: two
places that hold one cell hold the same value at all times. -/

namespace StructForge.Struct

open Live Container Schema

structure Held where
  cell : Nat
  value : Value
  deriving Repr

/-- The content of a slot of a struct. -/
inductive Part where
  | array (a : FixedArray)
  | map (m : GrowingMap Value)
  | plain (h : Held)

def ownCell : Nat := 0

def Part.ofValue (v : Value) : Part := .plain ⟨ownCell, v⟩

def Copy.take (c : Copy) (s : Scope) (v : Value) : Except Fault Value :=
  match c with
  | .same => .ok v
  | .vector3 => do
    s.vector3 [← v.getAttribute "x", ← v.getAttribute "y", ← v.getAttribute "z"]
  | .vector2 => do s.vector2 [← v.getAttribute "x", ← v.getAttribute "y"]

def KeyCopy.take (c : KeyCopy) (s : Scope) (k : Value) : Except Fault Value :=
  match c with
  | .copy how => how.take s k
  | .widen => do
    let v ← k.getAttribute "value"
    match s.find enumKeyName with
    | .hint (.cls (.builtin "int")) => return .int (← v.toInt)
    | callee => callValue s.registry callee [v]

/-- Fills an array with the items of a value from an index on; the first number counts the items
that are left. -/
def fillArray (s : Scope) (c : Copy) (v : Value) :
    Nat → Nat → FixedArray → Except Fault FixedArray
  | 0, _, a => .ok a
  | left + 1, i, a => do
    let x ← c.take s (← v.item i)
    fillArray s c v left (i + 1) (← a.set (.int i) x)

def fillMap (s : Scope) (keyCopy : KeyCopy) (valueCopy : Copy) :
    List (Value × Value) → GrowingMap Value → Except Fault (GrowingMap Value)
  | [], m => .ok m
  | (k, v) :: rest, m => do
    let k ← keyCopy.take s k
    let v ← valueCopy.take s v
    fillMap s keyCopy valueCopy rest (← m.add k v)

/-- The content of a slot that is converted from an attribute of a source object. The slot is given
a content before a container is filled, which may fail with the name of the type of the content. -/
def Content.convert (s : Scope) (source : Except Fault Held) (give : String → Except Fault Unit) :
    Content → Except Fault Part
  | .array element copy => do
    match ← s.array element (do (← source).value.size) with
    | .inl a =>
      give RuntimeName.array.text
      let v := (← source).value
      return .array (← fillArray s copy v (← v.size) 0 a)
    | .inr made =>
      give made.typeName
      let v := (← source).value
      if (← v.size) ≠ 0 then
        let _ ← made.setItem (.int 0) (← copy.take s (← v.item 0))
      return .ofValue made
  | .map key value keyCopy valueCopy => do
    match ← s.map key value (do (← source).value.size) with
    | .inl m =>
      give RuntimeName.map.text
      return .map (← fillMap s keyCopy valueCopy (← (← source).value.entries) m)
    | .inr made =>
      give made.typeName
      if !(← (← source).value.entries).isEmpty then
        throw (← made.getAttribute "add").callFault
      return .ofValue made
  | .vector3 => do
    let v ← Copy.vector3.take s (← source).value
    give v.typeName
    return .ofValue v
  | .vector2 => do
    let v ← Copy.vector2.take s (← source).value
    give v.typeName
    return .ofValue v
  | .scalar .. => do
    let held ← source
    give held.value.typeName
    return .plain held

def Content.zero (s : Scope) : Content → Except Fault Part
  | .array element _ => do
    match ← s.unallocatedArray element with
    | .inl a => return .array a
    | .inr made => return .ofValue made
  | .map key value _ _ => do
    match ← s.unallocatedMap key value with
    | .inl m => return .map m
    | .inr made => return .ofValue made
  | .vector3 => do return .ofValue (← s.vector3 [])
  | .vector2 => do return .ofValue (← s.vector2 [])
  | .scalar type zero => do return .ofValue (← s.zero type zero)

def Part.typeName : Part → String
  | .array _ => RuntimeName.array.text
  | .map _ => RuntimeName.map.text
  | .plain h => h.value.typeName

/-- A struct: the names of its slots, and the contents of those that were given one. -/
structure Record where
  typeName : String
  slots : List String
  parts : List (String × Part)

def sharedMembers : List String :=
  reservedMembers ++
    ["__enter__", "__exit__", "__slots__", "__module__", "__delattr__", "__dir__", "__doc__",
      "__eq__", "__format__", "__ge__", "__getattribute__", "__getstate__", "__gt__", "__hash__",
      "__init__", "__init_subclass__", "__le__", "__lt__", "__ne__", "__new__", "__reduce__",
      "__reduce_ex__", "__repr__", "__setattr__", "__sizeof__", "__str__", "__subclasshook__"]

namespace Record

def missing (r : Record) (name : String) : Fault :=
  ⟨.missingAttribute, s!"'{r.typeName}' object has no attribute '{name}'"⟩

/-- The failure of setting a name that is no slot, to something of a type. -/
def notSettable (r : Record) (name typeName : String) : Fault :=
  if name = "__class__" then
    ⟨.badType, s!"__class__ must be set to a class, not '{typeName}' object"⟩
  else if sharedMembers.contains name then
    ⟨.missingAttribute, s!"'{r.typeName}' object attribute '{name}' is read-only"⟩
  else r.missing name

def checkSlot (r : Record) (name typeName : String) : Except Fault Unit :=
  if r.slots.contains name then .ok () else .error (r.notSettable name typeName)

def part (r : Record) (name : String) : Except Fault Part :=
  match r.parts.lookup name with
  | some p => .ok p
  | none => .error (r.missing name)

def put (r : Record) (name : String) (p : Part) : Record :=
  { r with parts := assign name p r.parts }

def ofParts (m : StructModel) (parts : List (String × Part)) : Record :=
  ⟨m.className, m.slotNames, assignAll parts⟩

def checkName (m : StructModel) (name typeName : String) : Except Fault Unit :=
  (ofParts m []).checkSlot name typeName

def convertSlot (m : StructModel) (s : Scope) (source : String → Except Fault Held) (slot : Slot) :
    Except Fault (String × Part) := do
  let name := m.read slot.name
  return (name, ← slot.content.convert s (source name) (checkName m name))

/-- What a slot of a default struct is given, with the name under which it is. -/
def zeroSlot (m : StructModel) (s : Scope) (slot : Slot) : Except Fault (String × Part) := do
  let name := m.read slot.name
  let p ← slot.content.zero s
  checkName m name p.typeName
  return (name, p)

/-- The struct converted from a source object, given by its attributes. -/
def convert (m : StructModel) (s : Scope) (source : String → Except Fault Held) :
    Except Fault Record := do
  return ofParts m (← m.slots.mapM (convertSlot m s source))

def default (m : StructModel) (s : Scope) : Except Fault Record := do
  return ofParts m (← m.slots.mapM (zeroSlot m s))

end Record

end StructForge.Struct

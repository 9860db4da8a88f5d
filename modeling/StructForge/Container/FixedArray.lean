import StructForge.Container.Allocator
import StructForge.Container.Storage

/-! # Arrays of fixed length

An array holds a number of elements that does not change while it has storage. An index is checked
before it is used, so no index reaches from the end. Without storage every use is refused. -/

namespace StructForge.Container

open Live Number

inductive Buffer where
  | numbers (kind : Kind) (cells : List Scalar)
  | foreign (type : ElementType) (cells : List Value)
  | values (cells : List Value)

namespace Buffer

def length : Buffer → Nat
  | .numbers _ cells => cells.length
  | .foreign _ cells | .values cells => cells.length

/-- A buffer of fresh elements: zeros, or absent values. -/
def fresh (s : Storage) (length : Nat) : Buffer :=
  match s with
  | .numbers kind => .numbers kind (List.replicate length (.zero kind))
  | .foreign type => .foreign type (List.replicate length type.zero)
  | .values => .values (List.replicate length .none)

def storage : Buffer → Storage
  | .numbers kind _ => .numbers kind
  | .foreign type _ => .foreign type
  | .values _ => .values

def elements : Buffer → List Value
  | .numbers kind cells => cells.map (.number kind)
  | .foreign _ cells | .values cells => cells

def toList : Buffer → List Value
  | .numbers _ cells => cells.map plainValue
  | .foreign type cells => cells.map type.plain
  | .values cells => cells

def set (b : Buffer) (i : Nat) (v : Value) : Except Fault Buffer :=
  match b with
  | .numbers kind cells => do return .numbers kind (cells.set i (← storeAs kind v))
  | .foreign type cells => do return .foreign type (cells.set i (← type.keep v))
  | .values cells => .ok (.values (cells.set i v))

def fill (b : Buffer) (v : Value) : Except Fault Buffer :=
  match b with
  | .numbers kind cells => do
    let x ← storeAs kind v
    return .numbers kind (cells.map fun _ => x)
  | .foreign type cells => do
    let x ← type.keep v
    return .foreign type (cells.map fun _ => x)
  | .values cells => .ok (.values (cells.map fun _ => v))

end Buffer

/-- An array; without a buffer it has no storage. -/
structure FixedArray where
  element : Value
  allocator : Allocator
  buffer : Option Buffer

/-- Where an index leads: one element, or all or none of them. -/
inductive Place where
  | at (i : Nat)
  | every
  | nowhere
  deriving DecidableEq, Repr

def memoryUnits : List String := ["bytes", "KiB", "MiB", "GiB", "TiB", "PiB", "EiB"]

/-- An amount of memory to three significant digits. -/
def memoryText (octets : Nat) : String :=
  let unit := octets.log2 / 10
  let size := twoTo (10 * unit)
  let shown :=
    if 100 * size ≤ octets then s!"{roundHalfEven octets size}."
    else
      let places : Nat := if 10 * size ≤ octets then 1 else 2
      let scaled := roundHalfEven (octets * tenTo places) size
      let tail := toString (scaled % tenTo places)
      let pad := String.ofList (List.replicate (places - tail.length) '0')
      s!"{scaled / tenTo places}.{pad}{tail}"
  shown ++ " " ++ memoryUnits[unit]?.getD ""

def lengthOf (p : Platform) (s : Storage) (v : Value) : Except Fault Nat :=
  let whole := match v with
    | .int i | .number _ (.int i) => some i
    | .member .. => match v.numeric? with
      | some (.whole i) => some i
      | _ => none
    | _ => none
  match whole with
  | none =>
    .error ⟨.badType,
      s!"expected a sequence of integers or a single integer, got '{v.shown}'"⟩
  | some i =>
    let n := i.toNat
    if twoTo 63 ≤ n then .error ⟨.badValue, "Maximum allowed dimension exceeded"⟩
    else if twoTo 63 ≤ n * s.size then
      .error ⟨.badValue, "array is too big; \x60arr.size * arr.dtype.itemsize\x60 is larger " ++
        "than the maximum possible size."⟩
    else if p.grants (n * s.size) then .ok n
    else
      .error ⟨.outOfMemory, s!"Unable to allocate {memoryText (n * s.size)} for an array with " ++
        s!"shape ({n},) and data type {s.name}"⟩

/-- Whether an index is one of the first `n`. -/
def inBounds (index : Value) (n : Nat) : Except Fault Bool :=
  match index.numeric? with
  | some (.whole i) => .ok (0 ≤ i && i < n)
  | some (.real x) => .ok (x.geInt 0 && x.ltInt n)
  | none =>
    .error ⟨.badType,
      s!"'<=' not supported between instances of 'int' and '{index.typeName}'"⟩

/-- Where an index in bounds leads. A truth value chooses all or none of the elements. -/
def placeOf (index : Value) : Except Fault Place :=
  match index with
  | .bool b | .number _ (.bool b) => .ok (if b then .every else .nowhere)
  | index =>
    match index.numeric? with
    | some (.whole i) => .ok (.at i.toNat)
    | _ =>
      .error ⟨.badIndex, "only integers, slices (\x60:\x60), ellipsis (\x60...\x60), " ++
        "numpy.newaxis (\x60None\x60) and integer or boolean arrays are valid indices"⟩

namespace FixedArray

def create (p : Platform) (element length : Value) (given : Given) : Except Fault FixedArray := do
  checkNonNegative "Length" length
  let allocator ← given.check
  let storage ← Storage.ofElement p element
  return ⟨element, allocator, some (.fresh storage (← lengthOf p storage length))⟩

def unallocated (element : Value) : FixedArray := ⟨element, .none, none⟩

def isCreated (a : FixedArray) : Bool := a.buffer.isSome

def require (a : FixedArray) : Except Fault Buffer :=
  match a.buffer with
  | some b => .ok b
  | none => .error (disposedFault "NativeArray")

def length (a : FixedArray) : Except Fault Nat := do return (← a.require).length

def checkIndex (b : Buffer) (index : Value) : Except Fault Unit := do
  if !(← inBounds index b.length) then
    throw ⟨.badIndex, s!"Index {index.display} is out of range of '{b.length}' length"⟩

def get (a : FixedArray) (index : Value) : Except Fault Value := do
  let b ← a.require
  checkIndex b index
  match ← placeOf index with
  | .at i => return (b.elements)[i]?.getD .none
  | .every => return .list [.list b.toList]
  | .nowhere => return .list []

def set (a : FixedArray) (index v : Value) : Except Fault FixedArray := do
  let b ← a.require
  checkIndex b index
  match ← placeOf index with
  | .at i => return { a with buffer := some (← b.set i v) }
  | .every => return { a with buffer := some (← b.fill v) }
  | .nowhere => return a

def elements (a : FixedArray) : Except Fault (List Value) := do return (← a.require).elements

def toList (a : FixedArray) : Except Fault (List Value) := do return (← a.require).toList

def setView (a : FixedArray) : Except Fault Unit := do
  let _ ← a.require
  throw ⟨.badValue, "assignment destination is read-only"⟩

def dispose (a : FixedArray) : Except Fault FixedArray := do
  let _ ← a.require
  return { a with allocator := .none, buffer := none }

def shown (a : FixedArray) : String :=
  let inner := match a.buffer with
    | some b => (Value.list b.toList).shown
    | none => "unallocated"
  s!"NativeArray({elementName a.element}, {inner})"

end FixedArray

end StructForge.Container

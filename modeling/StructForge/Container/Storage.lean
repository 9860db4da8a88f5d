import StructForge.Live.Convert
import StructForge.Live.Platform
import StructForge.Number.Cast

/-! # Storage of elements

What a container stores for an element depends on the declared type of its elements: numbers of one
kind, or the values themselves. -/

namespace StructForge.Container

open Live Number

/-- How elements are stored. -/
inductive Storage where
  | numbers (kind : Kind)
  | foreign (type : ElementType)
  | values

namespace Storage

def name : Storage → String
  | .numbers kind => kind.name
  | .foreign type => type.name
  | .values => "object"

/-- The storage of a class of the numeric library that has no kind of its own here. A class that
stands for several kinds is stored as the widest usual one; a class of whole arrays is no class of
numbers. -/
def ofNumericClass (p : Platform) : String → Storage
  | "longlong" => .numbers .int64
  | "ulonglong" => .numbers .uint64
  | "longdouble" => .foreign (p.elementType "float128")
  | "clongdouble" => .foreign (p.elementType "complex256")
  | "str_" => .foreign (p.elementType "str")
  | "bytes_" => .foreign (p.elementType "bytes")
  | "object_" | "ndarray" | "dtype" | "matrix" | "recarray" | "memmap" | "ufunc" => .values
  | "number" | "inexact" | "floating" => .numbers .float64
  | "integer" | "signedinteger" => .numbers .int64
  | "unsignedinteger" => .numbers .uint64
  | "complexfloating" => .foreign (p.elementType "complex128")
  | "character" => .foreign (p.elementType "bytes")
  | "generic" | "flexible" => .foreign (p.elementType "void")
  | name => .foreign (p.elementType name)

def ofElement (p : Platform) (element : Value) : Except Fault Storage :=
  match element.unhashable? with
  | some name => .error ⟨.badType, s!"unhashable type: '{name}'"⟩
  | none =>
    .ok (match element with
      | .hint (.cls (.builtin "bool")) => .numbers .bool
      | .hint (.cls (.builtin "int")) => .numbers .int64
      | .hint (.cls (.builtin "float")) => .numbers .float64
      | .hint (.cls (.number kind)) => .numbers kind
      | .hint (.cls (.numeric name)) => ofNumericClass p name
      | _ => .values)

def size : Storage → Nat
  | .numbers .bool | .numbers .int8 | .numbers .uint8 => 1
  | .numbers .int16 | .numbers .uint16 | .numbers .float16 => 2
  | .numbers .int32 | .numbers .uint32 | .numbers .float32 => 4
  | .foreign type => type.size
  | _ => 8

end Storage

def elementName (element : Value) : String :=
  match element with
  | .hint (.cls c) => c.name
  | .hint (.generic o _) => o.name
  | .hint (.capital o) | .hint (.capitalGeneric o _) => o.capital
  | .hint (.union [a, b]) =>
    if a == Hint.noneType || b == Hint.noneType then "Optional" else "Union"
  | .hint (.union _) => "Union"
  | .hint (.classVar _) | .hint .anyClassVar => "ClassVar"
  | .hint (.final _) => "Final"
  | .hint (.annotated ..) => "Annotated"
  | .hint (.literal _) => "Literal"
  | .hint (.typeVar name) => name
  | v => v.shown

def isSequence : Value → Bool
  | .list _ | .tuple _ => true
  | _ => false

def sequenceFault : Fault := ⟨.badValue, "setting an array element with a sequence."⟩

def notSequence {α : Type} (v : Value) (x : Except Fault α) : Except Fault α :=
  match x with
  | .error f => .error (if isSequence v then sequenceFault else f)
  | x => x

/-- The failure of a whole number that no register holds. -/
def tooLong : Fault := ⟨.overflow, "Python int too large to convert to C long"⟩

/-- A whole number as one of an integer kind. Numbers that no register holds are refused first; the
register of the widest unsigned kind has no place for more than its own range. -/
def checkedInt (k : Kind) (i : Int) : Except Fault Int :=
  let (low, count) := k.range?.getD (0, 0)
  let inRange : Bool := low ≤ i && i < low + count
  let inLong : Bool := -twoTo 63 ≤ i && i < twoTo 63
  if inRange then .ok i
  else
    let held := match k with
      | .int64 => false
      | .uint64 => i < 0 && inLong
      | _ => inLong
    if held then .error ⟨.overflow, s!"Python integer {i} out of bounds for {k.name}"⟩
    else .error tooLong

/-- A value as a number of a floating-point format. The absent value is not a number. -/
def component (f : Format) (v : Value) : Except Fault Binary :=
  match v with
  | .none => .ok .nan
  | .number _ (.int i) => .ok (f.ofInt i)
  | v => do return f.round (← notSequence v v.toFloat)

def storeAs (k : Kind) (v : Value) : Except Fault Scalar :=
  match v with
  | .number _ x => .ok (x.cast k)
  | v =>
    match k.format?, k with
    | some f, _ => do return .float (← component f v)
    | none, .bool => .ok (.bool v.isTrue)
    | none, k => do return .int (← checkedInt k (← notSequence v v.toInt))

def plainValue : Scalar → Value
  | .bool b => .bool b
  | .int i => .int i
  | .float x => .float x

end StructForge.Container

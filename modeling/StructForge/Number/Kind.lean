import StructForge.Number.Binary

/-! # Fixed-width numbers

The kinds of numbers of fixed width, with their names, ranges and formats. -/

namespace StructForge.Number

/-- A kind of number of fixed width. -/
inductive Kind where
  | bool
  | int8 | int16 | int32 | int64
  | uint8 | uint16 | uint32 | uint64
  | float16 | float32 | float64
  deriving DecidableEq, Repr

namespace Kind

def all : List Kind :=
  [.bool, .int8, .int16, .int32, .int64, .uint8, .uint16, .uint32, .uint64, .float16, .float32,
    .float64]

def name : Kind → String
  | .bool => "bool"
  | .int8 => "int8"
  | .int16 => "int16"
  | .int32 => "int32"
  | .int64 => "int64"
  | .uint8 => "uint8"
  | .uint16 => "uint16"
  | .uint32 => "uint32"
  | .uint64 => "uint64"
  | .float16 => "float16"
  | .float32 => "float32"
  | .float64 => "float64"

def ofName? (s : String) : Option Kind := all.find? (·.name == s)

/-- The smallest value and the number of values of an integer kind. -/
def range? : Kind → Option (Int × Nat)
  | .int8 => some (-twoTo 7, twoTo 8)
  | .int16 => some (-twoTo 15, twoTo 16)
  | .int32 => some (-twoTo 31, twoTo 32)
  | .int64 => some (-twoTo 63, twoTo 64)
  | .uint8 => some (0, twoTo 8)
  | .uint16 => some (0, twoTo 16)
  | .uint32 => some (0, twoTo 32)
  | .uint64 => some (0, twoTo 64)
  | _ => none

def format? : Kind → Option Format
  | .float16 => some .half
  | .float32 => some .single
  | .float64 => some .double
  | _ => none

end Kind

inductive Scalar where
  | bool (b : Bool)
  | int (i : Int)
  | float (x : Binary)
  deriving DecidableEq, Repr, Inhabited

namespace Scalar

def zero (k : Kind) : Scalar :=
  match k with
  | .bool => .bool false
  | k => if k.format?.isSome then .float .zero else .int 0

def ofBool (b : Bool) : Int := if b then 1 else 0

end Scalar

end StructForge.Number

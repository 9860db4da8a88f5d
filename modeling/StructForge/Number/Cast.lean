import StructForge.Number.Kind

/-! # Casts between numbers of fixed width

A whole number is cut to the width of the new kind, and a floating-point value loses its fraction
first. What does not fit the register that it goes through becomes the smallest value of that
register. -/

namespace StructForge.Number

/-- A whole number cut to the width of an integer kind. -/
def Kind.wrap (k : Kind) (i : Int) : Int :=
  match k.range? with
  | some (low, count) => (i - low) % count + low
  | none => i

/-- The bits of the register that a floating-point value goes through on its way to a kind. -/
def Kind.register : Kind → Nat
  | .int64 | .uint32 | .uint64 => 64
  | _ => 32

def inRegister (bits : Nat) (x : Binary) : Int :=
  let least : Int := -twoTo (bits - 1)
  match x.truncate? with
  | some i => if least ≤ i ∧ i < -least then i else least
  | none => least

def Kind.wrapFloat (k : Kind) (x : Binary) : Int :=
  match k, x.truncate? with
  | .uint64, some i => if twoTo 63 ≤ i ∧ i < twoTo 64 then i else k.wrap (inRegister 64 x)
  | k, _ => k.wrap (inRegister k.register x)

def Scalar.cast (k : Kind) (x : Scalar) : Scalar :=
  match k.format?, k, x with
  | some f, _, .float x => .float (f.round x)
  | some f, _, .int i => .float (f.ofInt i)
  | some f, _, .bool b => .float (f.ofInt (ofBool b))
  | none, .bool, .float x => .bool !x.isZero
  | none, .bool, .int i => .bool (i != 0)
  | none, .bool, .bool b => .bool b
  | none, k, .float x => .int (k.wrapFloat x)
  | none, k, .int i => .int (k.wrap i)
  | none, _, .bool b => .int (ofBool b)

end StructForge.Number

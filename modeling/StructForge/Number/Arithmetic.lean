import StructForge.Number.Binary

/-! # Sums and products of doubles

Each operation gives the double nearest to the exact result. -/

namespace StructForge.Number.Binary

/-- A finite value as a signed fraction: its numerator and the exponent of its denominator. -/
private def signed (negative : Bool) (s : Nat) : Int := if negative then -(s : Int) else s

def add (x y : Binary) : Binary :=
  match x, y with
  | .nan, _ | _, .nan => .nan
  | .infinite a, .infinite b => if a == b then .infinite a else .nan
  | .infinite a, _ | _, .infinite a => .infinite a
  | .finite a s e, .finite b t f =>
    let low := min e f
    let sum := signed a s * twoTo (e - low) + signed b t * twoTo (f - low)
    if sum = 0 then .finite (a && b) 0 0
    else Format.double.round (ofScaled (decide (sum < 0)) sum.natAbs low)

/-- The double nearest to a product with a whole number. -/
def scale (x : Binary) (n : Nat) : Binary :=
  match x with
  | .nan => .nan
  | .infinite a => if n = 0 then .nan else .infinite a
  | .finite a s e => Format.double.round (ofScaled a (s * n) e)

def negate : Binary → Binary
  | .nan => .nan
  | .infinite a => .infinite !a
  | .finite a s e => .finite (!a) s e

end StructForge.Number.Binary

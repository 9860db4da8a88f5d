/-! # Binary floating-point values

A value is kept exactly: its sign, an odd significand (or zero) and a power of two. Every finite
value of every format therefore has one representation, whatever format it came from, and the
formats differ only in which values they can hold. `Format.ofRatio` is the rounding to the nearest
value of a format, a tie going to the even significand. -/

namespace StructForge.Number

/-- A binary floating-point value. -/
inductive Binary where
  | nan
  | infinite (negative : Bool)
  | finite (negative : Bool) (significand : Nat) (exponent : Int)
  deriving DecidableEq, Repr, Inhabited

/-- A binary interchange format: the bits of a significand and the largest exponent of a leading
bit. -/
structure Format where
  precision : Nat
  maxExponent : Int
  deriving DecidableEq, Repr

namespace Format

def half : Format := ⟨11, 15⟩
def single : Format := ⟨24, 127⟩
def double : Format := ⟨53, 1023⟩

def minQuantum (f : Format) : Int := 2 - f.maxExponent - f.precision

end Format

/-- The power of two with an exponent; a negative exponent counts as zero. -/
def twoTo (exponent : Int) : Nat := Nat.pow 2 exponent.toNat

/-- The power of ten with an exponent; a negative exponent counts as zero. -/
def tenTo (exponent : Int) : Nat := Nat.pow 10 exponent.toNat

/-- A quotient rounded to the nearest whole number, a tie going to the even one. -/
def roundHalfEven (num den : Nat) : Nat :=
  let q := num / den
  let twice := 2 * (num % den)
  if twice < den then q else if den < twice then q + 1 else if q % 2 = 0 then q else q + 1

def reduce (fuel : Nat) (significand : Nat) (exponent : Int) : Nat × Int :=
  match fuel with
  | 0 => (significand, exponent)
  | fuel + 1 =>
    if significand % 2 = 0 then reduce fuel (significand / 2) (exponent + 1)
    else (significand, exponent)

namespace Binary

/-- The value `± significand * 2 ^ exponent`. -/
def ofScaled (negative : Bool) (significand : Nat) (exponent : Int) : Binary :=
  if significand = 0 then .finite negative 0 0
  else
    let (s, e) := reduce significand.log2 significand exponent
    .finite negative s e

def zero : Binary := .finite false 0 0

def isZero : Binary → Bool
  | .finite _ 0 _ => true
  | _ => false

/-- The nearest whole number toward zero. -/
def truncate? : Binary → Option Int
  | .finite n s e =>
    let m : Nat := if 0 ≤ e then s * twoTo e else s / twoTo (-e)
    some (if n then -(m : Int) else m)
  | _ => none

def toInt? : Binary → Option Int
  | .finite n s e =>
    if 0 ≤ e then
      let m : Nat := s * twoTo e
      some (if n then -(m : Int) else m)
    else if s = 0 then some 0 else none
  | _ => none

/-- Equality of numbers: not a number differs from all, and the two zeros are equal. -/
def equals : Binary → Binary → Bool
  | .nan, _ => false
  | _, .nan => false
  | .finite n s e, .finite n' s' e' => (s == 0 && s' == 0) || (n == n' && s == s' && e == e')
  | .infinite n, .infinite n' => n == n'
  | _, _ => false

def leading (significand : Nat) (exponent : Int) : Int := exponent + significand.log2

/-- Whether a number is below a whole number; not a number never is. -/
def ltInt (x : Binary) (i : Int) : Bool :=
  match x with
  | .nan => false
  | .infinite n => n
  | .finite n s e =>
    let signed : Int := if n then -(s : Int) else s
    if 0 ≤ e then signed * twoTo e < i else signed < i * twoTo (-e)

/-- Whether a number is at least a whole number; not a number never is. -/
def geInt (x : Binary) (i : Int) : Bool :=
  match x with
  | .nan => false
  | _ => !x.ltInt i

end Binary

namespace Format

/-- The exponent of the last bit that the format keeps of a number between `2 ^ leading` and its
double. -/
def quantum (f : Format) (leading : Int) : Int := max (leading - (f.precision - 1)) f.minQuantum

/-- The power of two at or below a positive quotient. -/
def floorLog2 (num den : Nat) : Int :=
  let guess : Int := (num.log2 : Int) - den.log2
  let above : Bool :=
    if 0 ≤ guess then den * twoTo guess ≤ num else den ≤ num * twoTo (-guess)
  if above then guess else guess - 1

/-- The value of the format nearest to `± num / den`. Beyond the largest value it is infinite. -/
def ofRatio (f : Format) (negative : Bool) (num den : Nat) : Binary :=
  if num = 0 then .finite negative 0 0
  else
    let q := f.quantum (floorLog2 num den)
    let m := if 0 ≤ q then roundHalfEven num (den * twoTo q)
      else roundHalfEven (num * twoTo (-q)) den
    if m ≠ 0 ∧ f.maxExponent < Binary.leading m q then .infinite negative
    else Binary.ofScaled negative m q

def round (f : Format) : Binary → Binary
  | .finite n s e =>
    if 0 ≤ e then f.ofRatio n (s * twoTo e) 1 else f.ofRatio n s (twoTo (-e))
  | x => x

def ofInt (f : Format) (i : Int) : Binary := f.ofRatio (decide (i < 0)) i.natAbs 1

/-- The value of the format nearest to `± digits * 10 ^ exponent`. A number far outside the range of
every format is settled by the place of its leading digit alone. -/
def ofDecimal (f : Format) (negative : Bool) (digits : Nat) (exponent : Int) : Binary :=
  let place : Int := exponent + (digits.log2 / 3 : Nat)
  if digits = 0 then .finite negative 0 0
  else if 5000 < exponent then .infinite negative
  else if place < -5000 then .finite negative 0 0
  else if 0 ≤ exponent then f.ofRatio negative (digits * tenTo exponent) 1
  else f.ofRatio negative digits (tenTo (-exponent))

end Format

/-- A whole number as a double, none beyond the largest one. -/
def double? (i : Int) : Option Binary :=
  match Format.double.ofInt i with
  | .infinite _ => none
  | x => some x

end StructForge.Number

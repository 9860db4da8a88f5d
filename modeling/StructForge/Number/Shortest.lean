import StructForge.Number.Binary

/-! # Shortest decimals

The decimal with the fewest digits among those that round to a given value of a format, and among
those the one nearest to the value. The decimals with a given number of digits form a grid, and only
the two neighbours of the value on that grid can be the answer. -/

namespace StructForge.Number

/-- A positive decimal `digits * 10 ^ exponent`. -/
structure Decimal where
  digits : Nat
  exponent : Int
  deriving DecidableEq, Repr

/-- A positive value and the two ends of the interval of numbers that round to it, all three as
multiples of one unit `1 / den`. The ends belong to the interval when `closed` holds. -/
structure Interval where
  below : Nat
  value : Nat
  above : Nat
  den : Nat
  closed : Bool

namespace Interval

/-- The interval of the value `significand * 2 ^ exponent` in a format. Below a power of two the
values of the format lie twice as close. -/
def ofBinary (f : Format) (significand : Nat) (exponent : Int) : Interval :=
  let q := f.quantum (Binary.leading significand exponent)
  let m := significand * twoTo (exponent - q)
  let narrow := decide (m = twoTo (f.precision - 1)) && decide (f.minQuantum < q)
  let scale := twoTo q
  let den := 4 * twoTo (-q)
  { below := (4 * m - if narrow then 1 else 2) * scale
    value := 4 * m * scale
    above := (4 * m + 2) * scale
    den, closed := m % 2 == 0 }

/-- Whether the decimal `n * unit` is in the interval, where `unit` is `num / den`. -/
def has (i : Interval) (num den n : Nat) : Bool :=
  let x := n * num * i.den
  if i.closed then i.below * den ≤ x && x ≤ i.above * den
  else i.below * den < x && x < i.above * den

/-- The neighbour on the grid of multiples of `10 ^ place` that lies in the interval; of two the
nearer one, of two equally near the even one. -/
def onGrid? (i : Interval) (place : Int) : Option Nat :=
  let num := tenTo place
  let den := tenTo (-place)
  let low := i.value * den / (i.den * num)
  match i.has num den low, i.has num den (low + 1) with
  | true, true =>
    let twice := 2 * (i.value * den - low * num * i.den)
    let step := num * i.den
    if twice < step then some low
    else if step < twice then some (low + 1)
    else some (if low % 2 = 0 then low else low + 1)
  | true, false => some low
  | false, true => some (low + 1)
  | false, false => none

/-- The first grid with a hit, going from coarse to fine. -/
def search (i : Interval) : Nat → Int → Decimal
  | 0, place => ⟨(i.onGrid? place).getD 0, place⟩
  | fuel + 1, place =>
    match i.onGrid? place with
    | some n => if n = 0 then search i fuel (place - 1) else ⟨n, place⟩
    | none => search i fuel (place - 1)

end Interval

/-- The power of ten at or below `num / den`, found by counting down from an upper bound. -/
def floorLog10 (num den : Nat) : Nat → Int → Int
  | 0, guess => guess
  | fuel + 1, guess =>
    let fits : Bool :=
      if 0 ≤ guess then den * tenTo guess ≤ num else den ≤ num * tenTo (-guess)
    if fits then guess else floorLog10 num den fuel (guess - 1)

def shortest (f : Format) (significand : Nat) (exponent : Int) : Decimal :=
  let i := Interval.ofBinary f significand exponent
  let high : Int := Binary.leading significand exponent * 30103 / 100000 + 1
  let place := floorLog10 i.value i.den 3 high
  i.search 20 (place + 1)

end StructForge.Number

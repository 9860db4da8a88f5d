import StructForge.Number.Shortest

/-! # Decimal text of floating-point values

The digits are the shortest ones of the value's format. Numbers from `1e-4` up to, but not
including, `1e16` are written out with a point and at least one digit on each side of it; the others
have an exponent with a sign and at least two digits. -/

namespace StructForge.Number

/-- The digits of a number, with zeros in front up to the given length. -/
def paddedDigits (width n : Nat) : List Char :=
  let ds := Nat.toDigits 10 n
  List.replicate (width - ds.length) '0' ++ ds

def Decimal.text (d : Decimal) : List Char :=
  let ds := Nat.toDigits 10 d.digits
  let point : Int := ds.length + d.exponent
  if -4 < point ∧ point ≤ 16 then
    if point ≤ 0 then '0' :: '.' :: (List.replicate (-point).toNat '0' ++ ds)
    else if point.toNat < ds.length then ds.take point.toNat ++ '.' :: ds.drop point.toNat
    else ds ++ List.replicate (point.toNat - ds.length) '0' ++ ['.', '0']
  else
    let fraction := match ds.drop 1 with
      | [] => []
      | rest => '.' :: rest
    let e := point - 1
    ds.take 1 ++ fraction ++ ['e', if e < 0 then '-' else '+'] ++ paddedDigits 2 e.natAbs

def Binary.text (f : Format) : Binary → String
  | .nan => "nan"
  | .infinite false => "inf"
  | .infinite true => "-inf"
  | .finite negative s e =>
    let digits := if s = 0 then ['0', '.', '0'] else (shortest f s e).text
    String.ofList (if negative then '-' :: digits else digits)

end StructForge.Number

import StructForge.Text.DigitTable

/-! # Decimal digits of any script -/

namespace StructForge.Text

def digitValue? (c : Char) : Option Nat := (decimalDigits.offset? c.toNat).map (· % 10)

def isAsciiDigit (c : Char) : Bool := '0' ≤ c && c ≤ '9'

def ofDigits (cs : List Char) : Nat := cs.foldl (fun n c => 10 * n + (c.toNat - 0x30)) 0

end StructForge.Text

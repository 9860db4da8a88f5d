import StructForge.Number.Binary
import StructForge.Text.Blank
import StructForge.Text.Digit
import StructForge.Text.Quoted

/-! # Reading numbers

Numbers are read with blanks around them, with digits of any script, and with single underscores
between two digits. -/

namespace StructForge.Number

open StructForge.Text

private def isAsciiBlank (c : Char) : Bool := c == ' ' || ('\t' ≤ c && c ≤ '\r')

/-- A text with ASCII digits and without the blanks around it. -/
def plainForm (cs : List Char) : List Char :=
  trimBy isAsciiBlank <| cs.map fun c =>
    if c.toNat < 0x80 then c
    else if isBlank c then ' '
    else match digitValue? c with
      | some d => Char.ofNat (0x30 + d)
      | none => c

def splitSign : List Char → Bool × List Char
  | '-' :: rest => (true, rest)
  | '+' :: rest => (false, rest)
  | cs => (false, cs)

/-- The digits of a text without its underscores, if each underscore stands between two digits. -/
def joinGroups : List Char → Option (List Char)
  | [] => some []
  | c :: '_' :: d :: rest =>
    if isAsciiDigit c && isAsciiDigit d then (joinGroups (d :: rest)).map (c :: ·) else none
  | c :: rest => if c == '_' then none else (joinGroups rest).map (c :: ·)

def maxDigits : Nat := 4300

inductive LiteralFault where
  | notWhole (text : String)
  | notFloat (text : String)
  | tooLong (digits : Nat)
  deriving DecidableEq, Repr

def LiteralFault.message : LiteralFault → String
  | .notWhole s =>
    let shown := String.ofList ((quoted s).toList.take 200)
    s!"invalid literal for int() with base 10: {shown}"
  | .notFloat s => s!"could not convert string to float: {quoted s}"
  | .tooLong n =>
    s!"Exceeds the limit ({maxDigits} digits) for integer string conversion: value has {n} " ++
      "digits; use sys.set_int_max_str_digits() to increase the limit"

def readInt (s : String) : Except LiteralFault Int :=
  let (negative, body) := splitSign (plainForm s.toList)
  match joinGroups body with
  | some (d :: ds) =>
    if (d :: ds).all isAsciiDigit then
      if maxDigits < (d :: ds).length then .error (.tooLong (d :: ds).length)
      else
        let n : Int := ofDigits (d :: ds)
        .ok (if negative then -n else n)
    else .error (.notWhole s)
  | _ => .error (.notWhole s)

/-- Reads an exponent: nothing, or a mark, an optional sign and digits to the end. -/
private def readExponent : List Char → Option Int
  | [] => some 0
  | c :: rest =>
    if c == 'e' || c == 'E' then
      let (negative, ds) := splitSign rest
      if ds.isEmpty || !ds.all isAsciiDigit then none
      else
        let n : Int := ofDigits ds
        some (if negative then -n else n)
    else none

/-- Reads a decimal without a sign: digits, perhaps a point and more digits, perhaps an exponent. -/
def readDecimal (f : Format) (negative : Bool) (cs : List Char) : Option Binary :=
  let whole := cs.takeWhile isAsciiDigit
  let (fraction, rest) := match cs.dropWhile isAsciiDigit with
    | '.' :: rest => (rest.takeWhile isAsciiDigit, rest.dropWhile isAsciiDigit)
    | rest => ([], rest)
  if whole.isEmpty && fraction.isEmpty then none
  else do
    let exponent ← readExponent rest
    return f.ofDecimal negative (ofDigits (whole ++ fraction)) (exponent - fraction.length)

def readFloat (f : Format) (s : String) : Except LiteralFault Binary :=
  let (negative, body) := splitSign (plainForm s.toList)
  let word := String.ofList (body.map Char.toLower)
  if word == "inf" || word == "infinity" then .ok (.infinite negative)
  else if word == "nan" then .ok .nan
  else match (joinGroups body).bind (readDecimal f negative) with
    | some x => .ok x
    | none => .error (.notFloat s)

end StructForge.Number

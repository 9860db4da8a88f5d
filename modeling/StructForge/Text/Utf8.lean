import StructForge.Text.Hexadecimal

/-! # Reading UTF-8

Octets are decoded one character at a time. A refusal names the octets that it is about: from the
first octet of the character to the last one that still could have been part of it. -/

namespace StructForge.Text.Utf8

/-- Why octets are no text. -/
inductive Reason where
  | invalidStart
  | invalidContinuation
  | unexpectedEnd
  deriving DecidableEq, Repr

def Reason.text : Reason → String
  | .invalidStart => "invalid start byte"
  | .invalidContinuation => "invalid continuation byte"
  | .unexpectedEnd => "unexpected end of data"

/-- A refusal: the first refused octet, its position, and how many octets are refused. -/
structure Fault where
  octet : UInt8
  start : Nat
  count : Nat
  reason : Reason
  deriving DecidableEq, Repr

def Fault.message (f : Fault) : String :=
  let place :=
    if f.count = 1 then
      let digits := String.ofList (hexDigits 2 f.octet.toNat)
      s!"byte 0x{digits} in position {f.start}"
    else s!"bytes in position {f.start}-{f.start + f.count - 1}"
  s!"'utf-8' codec can't decode {place}: {f.reason.text}"

def isTail (b : UInt8) : Bool := 0x80 ≤ b && b ≤ 0xBF

def isSecond (a b : UInt8) : Bool :=
  isTail b && !(a == 0xE0 && b < 0xA0) && !(a == 0xED && 0xA0 ≤ b) &&
    !(a == 0xF0 && b < 0x90) && !(a == 0xF4 && 0x90 ≤ b)

/-- The six bits that a later octet adds to its character. -/
def tailBits (b : UInt8) : Nat := b.toNat % 64

/-- The characters of a list of octets whose first one stands at the given position. -/
def decodeFrom (start : Nat) : List UInt8 → Except Fault (List Char)
  | [] => .ok []
  | a :: rest =>
    let fault (count : Nat) (reason : Reason) : Except Fault (List Char) :=
      .error { octet := a, start, count, reason }
    if a < 0x80 then return Char.ofNat a.toNat :: (← decodeFrom (start + 1) rest)
    else if a < 0xC2 then fault 1 .invalidStart
    else if a < 0xE0 then
      match rest with
      | [] => fault 1 .unexpectedEnd
      | b :: rest =>
        if isTail b then
          return Char.ofNat (a.toNat % 32 * 64 + tailBits b) :: (← decodeFrom (start + 2) rest)
        else fault 1 .invalidContinuation
    else if a < 0xF0 then
      match rest with
      | [] => fault 1 .unexpectedEnd
      | [b] => if isSecond a b then fault 2 .unexpectedEnd else fault 1 .invalidContinuation
      | b :: c :: rest =>
        if !isSecond a b then fault 1 .invalidContinuation
        else if isTail c then
          return Char.ofNat (a.toNat % 16 * 4096 + tailBits b * 64 + tailBits c) ::
            (← decodeFrom (start + 3) rest)
        else fault 2 .invalidContinuation
    else if a < 0xF5 then
      match rest with
      | [] => fault 1 .unexpectedEnd
      | [b] => if isSecond a b then fault 2 .unexpectedEnd else fault 1 .invalidContinuation
      | [b, c] =>
        if !isSecond a b then fault 1 .invalidContinuation
        else if isTail c then fault 3 .unexpectedEnd else fault 2 .invalidContinuation
      | b :: c :: d :: rest =>
        if !isSecond a b then fault 1 .invalidContinuation
        else if !isTail c then fault 2 .invalidContinuation
        else if isTail d then
          return Char.ofNat
              (a.toNat % 8 * 262144 + tailBits b * 4096 + tailBits c * 64 + tailBits d) ::
            (← decodeFrom (start + 4) rest)
        else fault 3 .invalidContinuation
    else fault 1 .invalidStart

def decode (octets : ByteArray) : Except Fault String :=
  return String.ofList (← decodeFrom 0 octets.data.toList)

end StructForge.Text.Utf8

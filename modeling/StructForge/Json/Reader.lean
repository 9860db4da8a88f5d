import StructForge.Json.Value
import StructForge.Number.Literal
import StructForge.Text.Hexadecimal

/-! # Reading JSON

Readers take what they read off the front of a text and answer with the rest of it. A fault is the
rest of the text from the place of the fault on, so that its offset is a difference of lengths. -/

namespace StructForge.Json

open StructForge.Number StructForge.Text

def isBlank (c : Char) : Bool := c == ' ' || c == '\t' || c == '\n' || c == '\r'

def skipBlanks (cs : List Char) : List Char := cs.dropWhile isBlank

/-! ## Texts -/

/-- The character that a letter stands for after a backslash. -/
def escaped? : Char → Option Char
  | '"' => some '"'
  | '\\' => some '\\'
  | '/' => some '/'
  | 'b' => some '\x08'
  | 'f' => some '\x0c'
  | 'n' => some '\n'
  | 'r' => some '\r'
  | 't' => some '\t'
  | _ => none

/-- The number that four hexadecimal digits spell. -/
def unit? (a b c d : Char) : Option Nat := do
  return (((← hexValue? a) * 16 + (← hexValue? b)) * 16 + (← hexValue? c)) * 16 + (← hexValue? d)

/-- Whether a number is the first half of a surrogate pair. -/
def isHigh (n : Nat) : Bool := 0xd800 ≤ n && n < 0xdc00

/-- Whether a number is the second half of a surrogate pair. -/
def isLow (n : Nat) : Bool := 0xdc00 ≤ n && n < 0xe000

/-- The character of a number, none for half of a surrogate pair. -/
def charOf? (n : Nat) : Option Char := if isHigh n || isLow n then none else some (Char.ofNat n)

def pairChar (high low : Nat) : Char :=
  Char.ofNat (0x10000 + (high - 0xd800) * 0x400 + (low - 0xdc00))

/-- What the characters after the escape of a first half say about it: a second half, with the rest
of the text, or nothing. Another escape must be well formed in any case. -/
def secondHalf (rest : List Char) : Except (List Char) (Option (Nat × List Char)) :=
  match rest with
  | '\\' :: 'u' :: a :: b :: c :: d :: after =>
    if after.isEmpty then .ok none
    else match unit? a b c d with
      | some n => .ok (if isLow n then some (n, after) else none)
      | none => .error (rest.drop 1)
  | _ => .ok none

def readEscape (start cs : List Char) : Except (List Char) (Option Char × List Char) :=
  match cs with
  | [] => .error start
  | 'u' :: rest =>
    match rest with
    | a :: b :: c :: d :: after =>
      match unit? a b c d with
      | none => .error cs
      | some n =>
        if after.isEmpty then .error cs
        else if isHigh n then
          match secondHalf after with
          | .error fault => .error fault
          | .ok (some (low, after)) => .ok (some (pairChar n low), after)
          | .ok none => .ok (none, after)
        else .ok (charOf? n, after)
    | _ => .error cs
  | c :: rest =>
    match escaped? c with
    | some e => .ok (some e, rest)
    | none => .error ('\\' :: cs)

/-- Reads the characters of a text up to its closing quote. The fault of a text that is not closed
is at its `start`. The fuel bounds the length of the text. -/
def readChars (start : List Char) :
    Nat → List Char → Except (List Char) (List (Option Char) × List Char)
  | 0, _ => .error start
  | _, [] => .error start
  | _, '"' :: rest => .ok ([], rest)
  | fuel + 1, '\\' :: rest => do
    let (c, rest) ← readEscape start rest
    let (cs, rest) ← readChars start fuel rest
    return (c :: cs, rest)
  | fuel + 1, c :: rest =>
    if c.toNat < 0x20 then .error (c :: rest)
    else do
      let (cs, rest) ← readChars start fuel rest
      return (some c :: cs, rest)

/-- The text of characters, none if one of them is half of a pair. -/
def textOf? (cs : List (Option Char)) : Option String := (cs.mapM id).map String.ofList

/-- Reads a text, from the character after its opening quote on. -/
def readText (cs : List Char) : Except (List Char) (Option String × List Char) := do
  let (chars, rest) ← readChars ('"' :: cs) (cs.length + 1) cs
  return (textOf? chars, rest)

/-! ## Numbers -/

/-- The whole part of a number at the front of a text, with its sign. -/
def wholePart? (cs : List Char) : Option (List Char × List Char) :=
  let (sign, body) := match cs with
    | '-' :: rest => (['-'], rest)
    | _ => ([], cs)
  match body with
  | '0' :: rest => some (sign ++ ['0'], rest)
  | c :: _ =>
    if isAsciiDigit c then some (sign ++ body.takeWhile isAsciiDigit, body.dropWhile isAsciiDigit)
    else none
  | [] => none

/-- The fraction at the front of a text, empty if there is none. -/
def fractionPart (cs : List Char) : List Char × List Char :=
  match cs with
  | '.' :: rest =>
    let digits := rest.takeWhile isAsciiDigit
    if digits.isEmpty then ([], cs) else ('.' :: digits, rest.dropWhile isAsciiDigit)
  | _ => ([], cs)

/-- The exponent at the front of a text, empty if there is none. -/
def exponentPart (cs : List Char) : List Char × List Char :=
  match cs with
  | c :: rest =>
    if c == 'e' || c == 'E' then
      let (sign, rest) := match rest with
        | '-' :: rest => (['-'], rest)
        | '+' :: rest => (['+'], rest)
        | _ => ([], rest)
      let digits := rest.takeWhile isAsciiDigit
      if digits.isEmpty then ([], cs)
      else (c :: sign ++ digits, rest.dropWhile isAsciiDigit)
    else ([], cs)
  | [] => ([], cs)

def intOf (cs : List Char) : Int :=
  let (negative, digits) := splitSign cs
  let n : Int := ofDigits digits
  if negative then -n else n

/-- The value of a number with a fraction or an exponent. -/
def floatOf (cs : List Char) : Binary :=
  let (negative, digits) := splitSign cs
  (readDecimal .double negative digits).getD .nan

def readNumber (cs : List Char) : Except (List Char) (Json × List Char) :=
  match wholePart? cs with
  | none => .error cs
  | some (whole, rest) =>
    let (fraction, rest) := fractionPart rest
    let (exponent, rest) := exponentPart rest
    if fraction.isEmpty && exponent.isEmpty then .ok (.int (intOf whole), rest)
    else .ok (.float (floatOf (whole ++ fraction ++ exponent)), rest)

/-! ## Values -/

def words : List (String × Json) :=
  [("null", .null), ("true", .bool true), ("false", .bool false), ("NaN", .float .nan),
    ("Infinity", .float (.infinite false)), ("-Infinity", .float (.infinite true))]

def readAtom (cs : List Char) : Except (List Char) (Json × List Char) :=
  match words.find? fun (w, _) => w.toList.isPrefixOf cs with
  | some (w, v) => .ok (v, cs.drop w.length)
  | none => readNumber cs

mutual

/-- Reads a value. The fuel bounds the length of the text. -/
def readValue : Nat → List Char → Except (List Char) (Json × List Char)
  | 0, cs => .error cs
  | _, [] => .error []
  | fuel + 1, c :: rest =>
    if c == '"' then do
      let (s?, rest) ← readText rest
      return (match s? with | some s => .text s | none => .brokenText, rest)
    else if c == '[' then
      match skipBlanks rest with
      | ']' :: rest => .ok (.list [], rest)
      | cs => do
        let (items, rest) ← readItems fuel cs
        return (.list items, rest)
    else if c == '{' then
      match skipBlanks rest with
      | '}' :: rest => .ok (.object [], rest)
      | cs => do
        let (members, rest) ← readMembers fuel cs
        return (.object members, rest)
    else readAtom (c :: rest)

def readItems : Nat → List Char → Except (List Char) (List Json × List Char)
  | 0, cs => .error cs
  | fuel + 1, cs => do
    let (v, rest) ← readValue fuel cs
    match skipBlanks rest with
    | ']' :: rest => return ([v], rest)
    | ',' :: rest =>
      let (items, rest) ← readItems fuel (skipBlanks rest)
      return (v :: items, rest)
    | cs => throw cs

def readMembers : Nat → List Char → Except (List Char) (List (Option String × Json) × List Char)
  | 0, cs => .error cs
  | fuel + 1, cs =>
    match cs with
    | '"' :: rest => do
      let (name, rest) ← readText rest
      match skipBlanks rest with
      | ':' :: rest =>
        let (v, rest) ← readValue fuel (skipBlanks rest)
        match skipBlanks rest with
        | '}' :: rest => return ([(name, v)], rest)
        | ',' :: rest =>
          let (members, rest) ← readMembers fuel (skipBlanks rest)
          return ((name, v) :: members, rest)
        | cs => throw cs
      | cs => throw cs
    | _ => .error cs

end

def orderMark : Char := '\ufeff'

/-- Reads a whole text. A fault is the offset of its place. -/
def ofText (s : String) : Except Nat Json :=
  let cs := match s.toList with
    | c :: rest => if c == orderMark then rest else c :: rest
    | [] => []
  let read : Except (List Char) Json := do
    let (v, rest) ← readValue (2 * cs.length + 2) (skipBlanks cs)
    match skipBlanks rest with
    | [] => return v
    | rest => throw rest
  read.mapError fun rest => cs.length - rest.length

end StructForge.Json

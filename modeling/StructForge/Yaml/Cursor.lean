import StructForge.Fault
import StructForge.Text.Digit
import StructForge.Text.Hexadecimal

/-! # Places in a document

A cursor is what is left of a document, with the place that it has reached. Past the end it sees the
null character, which no document holds. -/

namespace StructForge.Yaml

/-- Why a value in a document cannot be formed. -/
inductive ValueFlaw where
  | badValue
  | badIndex
  | missingKey
  | missingAttribute
  | overflow
  deriving DecidableEq, Repr

def ValueFlaw.kind : ValueFlaw → FaultKind
  | .badValue => .badValue
  | .badIndex => .badIndex
  | .missingKey => .missingKey
  | .missingAttribute => .missingAttribute
  | .overflow => .overflow

/-- Why a document is refused: it is malformed, or a value in it cannot be formed. -/
inductive DocFault where
  | malformed (reason : String)
  | value (flaw : ValueFlaw) (message : String)
  deriving DecidableEq, Repr

/-- A place in a document, with what follows it. -/
structure Cursor where
  rest : List Char
  index : Nat
  line : Nat
  column : Nat
  deriving Repr

def isBreak (c : Char) : Bool :=
  c == '\n' || c == '\r' || c == '\u0085' || c == '\u2028' || c == '\u2029'

def endsLine (c : Char) : Bool := c == '\x00' || isBreak c

def endsWord (c : Char) : Bool := c == ' ' || endsLine c

/-- Line breaks, the end, the space and the tab. -/
def isGap (c : Char) : Bool := c == '\t' || endsWord c

def isAllowed (c : Char) : Bool :=
  let n := c.toNat
  n == 0x9 || n == 0xA || n == 0xD || (0x20 ≤ n && n ≤ 0x7E) || n == 0x85 ||
    (0xA0 ≤ n && n ≤ 0xD7FF) || (0xE000 ≤ n && n ≤ 0xFFFD) || 0x10000 ≤ n

def isWordChar (c : Char) : Bool := c.isAlphanum || c == '-' || c == '_'

namespace Cursor

def start (cs : List Char) : Cursor := ⟨cs, 0, 0, 0⟩

def peek (c : Cursor) (distance : Nat) : Char := c.rest[distance]?.getD '\x00'

def here (c : Cursor) : Char := c.peek 0

def next (c : Cursor) : Cursor :=
  match c.rest with
  | [] => c
  | x :: rest =>
    if x == '\n' || x == '\u0085' || x == '\u2028' || x == '\u2029' ||
        (x == '\r' && rest.head? != some '\n') then
      ⟨rest, c.index + 1, c.line + 1, 0⟩
    else ⟨rest, c.index + 1, c.line, if x == '\uFEFF' then c.column else c.column + 1⟩

def skip (c : Cursor) : Nat → Cursor
  | 0 => c
  | n + 1 => c.next.skip n

/-- The characters up to the first one that fails a test, and the place there. -/
def span (c : Cursor) (p : Char → Bool) : List Char × Cursor :=
  let taken := c.rest.takeWhile p
  (taken, c.skip taken.length)

def skipWhile (c : Cursor) (p : Char → Bool) : Cursor := (c.span p).2

/-- The line break at a place, as it is kept, and the place after it. -/
def lineBreak (c : Cursor) : Option (Char × Cursor) :=
  if c.here == '\r' && c.peek 1 == '\n' then some ('\n', c.skip 2)
  else if c.here == '\r' || c.here == '\n' || c.here == '\u0085' then some ('\n', c.next)
  else if c.here == '\u2028' || c.here == '\u2029' then some (c.here, c.next)
  else none

def isMark (c : Cursor) (x : Char) : Bool :=
  c.here == x && c.peek 1 == x && c.peek 2 == x && isGap (c.peek 3)

def isDocumentMark (c : Cursor) : Bool := c.isMark '-' || c.isMark '.'

/-- The place after the blanks, the comment and the break that may end a line; nothing else may. -/
def endLine (c : Cursor) : Except DocFault Cursor :=
  let c := c.skipWhile (· == ' ')
  let c := if c.here == '#' then c.skipWhile (!endsLine ·) else c
  if endsLine c.here then .ok ((c.lineBreak.map (·.2)).getD c)
  else .error (.malformed "expected a comment or a line break")

/-- How many steps a walk to the end can take. -/
def fuel (c : Cursor) : Nat := c.rest.length + 1

end Cursor

end StructForge.Yaml

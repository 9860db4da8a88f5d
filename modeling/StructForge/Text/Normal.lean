import StructForge.Text.Hexadecimal
import StructForge.Text.NormalTable
import StructForge.Text.Split

/-! # Normal forms of names

A module's names are read in their compatible composed normal form: every character is taken apart,
the marks that combine with one are put into the order of their classes, and what can be composed
is. Names of plain ASCII are in normal form. -/

namespace StructForge.Text

def ofHex (s : String) : Nat :=
  s.toList.foldl (fun n c => 16 * n + (hexValue? c).getD 0) 0

def tableItem (s : String) : List Nat := (pieces '.' s).map ofHex

def tableItems (lines : List String) : List (List Nat) :=
  lines.flatMap fun line => (pieces ' ' line).map tableItem

def decompositionsFrom : Nat → List String → List (Nat × List Nat)
  | _, [] => []
  | next, item :: rest =>
    match item.toList with
    | '@' :: digits => decompositionsFrom (ofHex (String.ofList digits)) rest
    | _ => (next, tableItem item) :: decompositionsFrom (next + 1) rest

def decompositions : List (Nat × List Nat) :=
  decompositionLines.flatMap fun line => decompositionsFrom 0 (pieces ' ' line)

def combiningRanges : List (Nat × Nat × Nat) :=
  (tableItems combiningLines).filterMap fun
    | [first, last, order] => some (first, last, order)
    | _ => none

def compositions : List ((Nat × Nat) × Nat) :=
  (tableItems compositionLines).filterMap fun
    | [first, second, composed] => some ((first, second), composed)
    | _ => none

/-- The first syllable of Hangul, and the first of each sort of its parts. The last parts are counted
from the one before the first, which stands for none. -/
def syllableBase : Nat := 0xAC00
def leadBase : Nat := 0x1100
def vowelBase : Nat := 0x1161
def tailBase : Nat := 0x11A7

def leadCount : Nat := 19
def vowelCount : Nat := 21
def tailCount : Nat := 28

def decompose (c : Nat) : List Nat :=
  let index := c - syllableBase
  if syllableBase ≤ c && index < leadCount * vowelCount * tailCount then
    let lead := leadBase + index / (vowelCount * tailCount)
    let vowel := vowelBase + index % (vowelCount * tailCount) / tailCount
    let tail := index % tailCount
    if tail = 0 then [lead, vowel] else [lead, vowel, tailBase + tail]
  else if c < 0x80 then [c]
  else (decompositions.lookup c).getD [c]

/-- The class of a character that combines with one before it; others have none. -/
def combiningClass (c : Nat) : Nat :=
  (combiningRanges.findSome? fun (first, last, order) =>
    if first ≤ c && c ≤ last then some order else none).getD 0

/-- What two characters make together. -/
def compose? (c d : Nat) : Option Nat :=
  if leadBase ≤ c && c < leadBase + leadCount && vowelBase ≤ d && d < vowelBase + vowelCount then
    some (syllableBase + ((c - leadBase) * vowelCount + (d - vowelBase)) * tailCount)
  else if syllableBase ≤ c && c < syllableBase + leadCount * vowelCount * tailCount &&
      (c - syllableBase) % tailCount = 0 && tailBase < d && d < tailBase + tailCount then
    some (c + (d - tailBase))
  else compositions.lookup (c, d)

/-- Puts a character before others, after those of lower classes if it has a class itself. -/
def insertMark (c : Nat) : List Nat → List Nat
  | [] => [c]
  | d :: rest =>
    if 0 < combiningClass d && combiningClass d < combiningClass c then d :: insertMark c rest
    else c :: d :: rest

def orderMarks (cs : List Nat) : List Nat := cs.foldr insertMark []

/-- Composes the characters after a first one. Those after it that stay apart are held back, the
last of them first, with the class of the last; a character behind one of its own class or a
higher one is blocked. -/
def composeFrom (first : Nat) (held : List Nat) (last : Nat) : List Nat → List Nat
  | [] => first :: held.reverse
  | c :: rest =>
    let order := combiningClass c
    let composed := if held.isEmpty || last < order then compose? first c else none
    match composed with
    | some made => composeFrom made held last rest
    | none =>
      if order = 0 then (first :: held.reverse) ++ composeFrom c [] 0 rest
      else composeFrom first (c :: held) order rest

def composeAll : List Nat → List Nat
  | [] => []
  | c :: rest => if combiningClass c = 0 then composeFrom c [] 0 rest else c :: composeAll rest

def isAscii (s : String) : Bool := s.toList.all (·.toNat < 0x80)

/-- The compatible composed normal form of a text. ASCII characters neither combine nor compose. -/
def normal (s : String) : String :=
  if isAscii s then s
  else
    let parts := s.toList.flatMap fun c => decompose c.toNat
    let composed := if parts.all (· < 0x80) then parts else composeAll (orderMarks parts)
    String.ofList (composed.map Char.ofNat)

end StructForge.Text

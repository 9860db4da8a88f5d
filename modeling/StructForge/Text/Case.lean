import StructForge.Text.CaseTable

/-! # Lower case

Each character is mapped on its own, but for two cases: the capital I with a dot becomes two
characters, and a capital sigma at the end of a word has a form of its own. -/

namespace StructForge.Text

/-- The lower-case form of one character; a character without one is kept. -/
def lowerChar (c : Char) : Char :=
  match lowerRuns.find? fun r =>
      r.first ≤ c.toNat && c.toNat ≤ r.last && (c.toNat - r.first) % r.step == 0 with
  | some r => Char.ofNat (c.toNat + r.shift).toNat
  | none => c

def isCased (c : Char) : Bool :=
  lowerChar c != c || lowerRuns.any fun r =>
    let source := (c.toNat - r.shift : Int)
    r.first ≤ source && source ≤ r.last && (source - r.first) % r.step == 0

/-- The lower-case form of a list of characters, given the character before it. -/
def lowerFrom : Option Char → List Char → List Char
  | _, [] => []
  | before, c :: rest =>
    let here :=
      if c = 'İ' then ['i', '\u0307']
      else if c = 'Σ' then
        if before.any isCased && !rest.head?.any isCased then ['ς'] else ['σ']
      else [lowerChar c]
    here ++ lowerFrom (some c) rest

def lower (s : String) : String := String.ofList (lowerFrom none s.toList)

end StructForge.Text

import StructForge.Text.IdentifierTable

/-! # Identifiers

An identifier begins with a start character and goes on with continue characters. The two tables
show that every start character may also continue an identifier, so identifiers are closed under
concatenation. -/

namespace StructForge.Text

def isIdentifierStart (c : Char) : Bool := identifierStart.has c.toNat

def isIdentifierContinue (c : Char) : Bool := identifierContinue.has c.toNat

/-- Whether a list of characters spells an identifier; reserved words are not singled out. -/
def spellsIdentifier : List Char → Bool
  | [] => false
  | c :: rest => isIdentifierStart c && rest.all isIdentifierContinue

def isIdentifier (s : String) : Bool := spellsIdentifier s.toList

/-- Words of a module's text that cannot be used as a name. -/
def reservedWords : List String :=
  ["False", "None", "True", "and", "as", "assert", "async", "await", "break", "class", "continue",
    "def", "del", "elif", "else", "except", "finally", "for", "from", "global", "if", "import",
    "in", "is", "lambda", "nonlocal", "not", "or", "pass", "raise", "return", "try", "while", "with",
    "yield"]

def isName (s : String) : Bool := isIdentifier s && !reservedWords.contains s

theorem identifierContinue_increasing : identifierContinue.increasing = true := by
  decide +kernel

theorem identifierContinue_covers : identifierContinue.covers identifierStart = true := by
  decide +kernel

theorem isIdentifierContinue_of_start {c : Char} (h : isIdentifierStart c = true) :
    isIdentifierContinue c = true :=
  Ranges.has_of_covers identifierContinue_increasing identifierContinue_covers h

theorem all_continue_of_spells {cs : List Char} (h : spellsIdentifier cs = true) :
    cs.all isIdentifierContinue = true := by
  cases cs with
  | nil => rfl
  | cons c rest =>
    simp only [spellsIdentifier, Bool.and_eq_true] at h
    simp [isIdentifierContinue_of_start h.1, h.2]

theorem spellsIdentifier_append {cs ds : List Char} (hc : spellsIdentifier cs = true)
    (hd : ds.all isIdentifierContinue = true) : spellsIdentifier (cs ++ ds) = true := by
  cases cs with
  | nil => simp [spellsIdentifier] at hc
  | cons c rest =>
    simp only [spellsIdentifier, Bool.and_eq_true] at hc
    simp only [List.cons_append, spellsIdentifier, List.all_append, Bool.and_eq_true]
    exact ⟨hc.1, hc.2, hd⟩

end StructForge.Text

import StructForge.Number.Binary

/-! # JSON values -/

namespace StructForge

/-- A JSON value. A text with half of a surrogate pair is no text and is kept apart. -/
inductive Json where
  | null
  | bool (b : Bool)
  | int (i : Int)
  | float (x : Number.Binary)
  | text (s : String)
  | brokenText
  | list (items : List Json)
  | object (members : List (Option String × Json))
  deriving Repr, Inhabited

namespace Json

def ofMembers (members : List (String × Json)) : Json :=
  .object (members.map fun (name, v) => (some name, v))

def ofTexts (texts : List String) : Json := .list (texts.map .text)

def last? (members : List (Option String × Json)) (name : String) : Option Json :=
  members.reverse.lookup (some name)

end Json

end StructForge

/-! # Splitting text -/

namespace StructForge.Text

/-- The pieces of a list between the places of a separator; there is always at least one piece. -/
def splitAt (separator : Char) : List Char → List (List Char)
  | [] => [[]]
  | c :: rest =>
    if c = separator then [] :: splitAt separator rest
    else match splitAt separator rest with
      | piece :: pieces => (c :: piece) :: pieces
      | [] => [[c]]

def pieces (separator : Char) (s : String) : List String :=
  (splitAt separator s.toList).map String.ofList

/-- A list without the places where `part` occurs, found from left to right. The fuel bounds the
length of the list. -/
def removeFrom (part : List Char) : Nat → List Char → List Char
  | 0, cs => cs
  | _, [] => []
  | fuel + 1, c :: rest =>
    if part.isPrefixOf (c :: rest) then removeFrom part fuel ((c :: rest).drop part.length)
    else c :: removeFrom part fuel rest

/-- A text without the places where a nonempty `part` occurs. -/
def remove (part s : String) : String :=
  if part.isEmpty then s else String.ofList (removeFrom part.toList (s.length + 1) s.toList)

theorem splitAt_ne_nil (separator : Char) (cs : List Char) : splitAt separator cs ≠ [] := by
  cases cs with
  | nil => simp [splitAt]
  | cons c rest =>
    unfold splitAt
    split
    · simp
    · split <;> simp

end StructForge.Text

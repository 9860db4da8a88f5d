import StructForge.Live.Annotation

/-! # Platforms

What a program finds beside its own classes: how the texts among its hints are evaluated, how much
memory there is, and the types of elements of the numeric library other than its numbers of fixed
width. -/

namespace StructForge.Live

/-- How texts are evaluated: the names and the attributes that a text is evaluated from, its value,
and the word that it begins with, perhaps with an owner before it. -/
structure Evaluator where
  names : String → List String
  attributes : String → List String
  value : Lookups → String → Except String Value
  leading : String → Option (Option String × String)
  value_congr : ∀ (l l' : Lookups) (text : String),
    l.Agree l' (names text) (attributes text) → value l' text = value l text

namespace Evaluator

/-- The word that a text begins with, and the one after a dot behind it. -/
def leadingWords (text : String) : Option (Option String × String) :=
  let word (cs : List Char) := (cs.dropWhile Text.isBlank).takeWhile Text.isIdentifierContinue
  let after (cs : List Char) :=
    ((cs.dropWhile Text.isBlank).dropWhile Text.isIdentifierContinue).dropWhile Text.isBlank
  match word text.toList, after text.toList with
  | [], _ => none
  | first, '.' :: rest =>
    match word rest with
    | [] => some (none, String.ofList first)
    | second => some (some (String.ofList first), String.ofList second)
  | first, _ => some (none, String.ofList first)

def standard : Evaluator where
  names text := ((Expression.ofText? text).map (·.names)).getD []
  attributes text := ((Expression.ofText? text).map (·.attributes)).getD []
  value l text :=
    match Expression.ofText? text with
    | some e => e.value l
    | none => .error s!"Forward reference must be an expression -- got {Text.quoted text}"
  leading := leadingWords
  value_congr l l' text h := by
    cases hread : Expression.ofText? text with
    | none => rfl
    | some e =>
      rw [hread] at h
      exact e.value_congr h

end Evaluator

/-- A type of elements of arrays: its name, the octets of an element, the element that an array
starts with, what is stored for a value, and an element as a value of its own. -/
structure ElementType where
  name : String
  size : Nat
  zero : Value
  keep : Value → Except Fault Value
  plain : Value → Value

/-- A platform. It evaluates texts that lead to other texts, up to a depth, and grants some numbers
of octets to an array. -/
structure Platform where
  evaluator : Evaluator := .standard
  depth : Nat := 256
  grants : Nat → Bool := fun _ => true
  elementType : String → ElementType := fun name => ⟨name, 8, .none, .ok, id⟩

end StructForge.Live

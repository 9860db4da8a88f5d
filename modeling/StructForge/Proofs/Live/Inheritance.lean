import StructForge.Live.Describe
import StructForge.Proofs.Live.ClassChain

/-! # Fields of derived classes

The fields of a class are found by two algorithms. A class that is no dataclass has those of its
resolved hints that are neither class variables nor initialisers; a dataclass has the names that it
collected as fields, each with its resolved hint. Along a chain both come to the same: the hints of
the classes are assigned one after the other, the root first, and each makes a field of its name or
none. Only what makes a field differs, which is the `fieldRule`. -/

namespace StructForge.Live

open Schema

section Rules

/-- Whether a hint makes a field of its name, told by the class, by the hint as it is declared, and
by the hint as it is resolved. -/
abbrev FieldRule := Layer → Hint → Hint → Bool

namespace Layer

def resolved (r : Registry) (l : Layer) (h : Hint) : Hint :=
  (h.declared (.ofClass r l.owner)).toOption.getD h

/-- The type that a hint of the class gives to the field it makes, if it makes one. -/
def type? (rule : FieldRule) (r : Registry) (l : Layer) (h : Hint) : Option TypeRef :=
  if rule l h (l.resolved r h) then some ((l.resolved r h).describe r) else none

/-- The names that the class declares, each with the type of the field it makes. -/
def entries (rule : FieldRule) (r : Registry) (l : Layer) : List (String × Option TypeRef) :=
  l.hints.map fun p => (p.1, l.type? rule r p.2)

end Layer

end Rules

section Collecting

variable {isDataclass : Bool} {r : Registry} {library : List ClassRef} {l : Layer}
  {ancestors : List Layer}

end Collecting

section Layout

variable {isDataclass : Bool} {r : Registry} {rule : FieldRule}
  {redeclared : String → Option (Option TypeRef)} {table entries : List (String × Option TypeRef)}
  {base derived : List Field} {f : Field}

end Layout

end StructForge.Live

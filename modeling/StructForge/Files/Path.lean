import StructForge.Text.Split

/-! # Paths

A path is an anchor and the names after it. Empty names and single dots are left out when a path is
read; double dots are kept, because what they lead to depends on the names before them. -/

namespace StructForge.Files

/-- Where a path starts. The doubled root is kept apart in the text only. -/
inductive Anchor where
  | here
  | root
  | doubledRoot
  deriving DecidableEq, Repr

def Anchor.text : Anchor → String
  | .here => ""
  | .root => "/"
  | .doubledRoot => "//"

structure Path where
  anchor : Anchor
  names : List String
  deriving DecidableEq, Repr

instance : Inhabited Path := ⟨⟨.here, []⟩⟩

/-- A place in a tree of files: the names that lead to it from the root, without dots. -/
abbrev Location := List String

def dot : String := "."

def dots : String := ".."

def anchorOf (cs : List Char) : Anchor :=
  match cs with
  | '/' :: '/' :: '/' :: _ => .root
  | '/' :: '/' :: _ => .doubledRoot
  | '/' :: _ => .root
  | _ => .here

namespace Path

def ofText (s : String) : Path :=
  ⟨anchorOf s.toList, (Text.pieces '/' s).filter fun name => name != "" && name != dot⟩

def isAbsolute (p : Path) : Bool := p.anchor != .here

def text (p : Path) : String :=
  if p.names.isEmpty && p.anchor == .here then dot
  else p.anchor.text ++ "/".intercalate p.names

/-- A path seen from another one. A path from the root does not depend on the other one. -/
def join (p q : Path) : Path := if q.isAbsolute then q else ⟨p.anchor, p.names ++ q.names⟩

def child (p : Path) (s : String) : Path := p.join (.ofText s)

def parent (p : Path) : Path := ⟨p.anchor, p.names.dropLast⟩

def name (p : Path) : String := p.names.getLast?.getD ""

def ofLocation (place : Location) : Path := ⟨.root, place⟩

/-- The path of the names that follow another path, if it begins this one. -/
def relativeTo? (p base : Path) : Option Path :=
  if p.anchor = base.anchor && base.names.isPrefixOf p.names then
    some ⟨.here, p.names.drop base.names.length⟩
  else none

end Path

/-- The location that names lead to from another one, on the assumption that every name is a
directory. -/
def Location.follow (start : Location) (names : List String) : Location :=
  names.foldl (fun place name => if name == dots then place.dropLast else place ++ [name]) start

def Path.locate (p : Path) (here : Location) : Location :=
  Location.follow (if p.isAbsolute then [] else here) p.names

end StructForge.Files

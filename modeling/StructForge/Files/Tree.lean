import StructForge.Fault
import StructForge.Files.Path
import StructForge.Text.LineBreak
import StructForge.Text.Quoted
import StructForge.Text.Utf8

/-! # Trees of files

A tree holds directories and files by their locations. Reaching a path walks it name by name, so the
first name that cannot be passed decides the error. Actions keep the tree that they leave also when
they fail.

A tree holds no links and tells names apart as they are written, so a path is resolved by its names
alone. A linked configuration file could be found in one directory and not in the one that it is
linked from, and a linked directory could lead out of the one that holds it. -/

namespace StructForge.Files

/-- What is found at a location. -/
inductive Entry where
  | directory
  | file (content : ByteArray)

instance : Inhabited Entry := ⟨.directory⟩

namespace Entry

def isDirectory : Entry → Bool
  | .directory => true
  | .file _ => false

end Entry

/-- A tree of files, with the directory in which paths are read and the known home directories. -/
structure Tree where
  entries : List (Location × Entry) := []
  here : Location := []
  homes : List (String × Path) := []

/-- The result of reaching a path: an entry, or a free place in a directory. -/
inductive Spot where
  | taken (location : Location) (entry : Entry)
  | free (location : Location)

def osMessage (kind : OsErrorKind) (path : Path) : String :=
  let (number, text) : Nat × String := match kind with
    | .notFound => (2, "No such file or directory")
    | .exists => (17, "File exists")
    | .notDirectory => (20, "Not a directory")
    | .isDirectory => (21, "Is a directory")
    | .nameTooLong => (36, "File name too long")
    | .permission => (13, "Permission denied")
    | .noSpace => (28, "No space left on device")
  s!"[Errno {number}] {text}: {Text.quoted path.text}"

def osFault (kind : OsErrorKind) (path : Path) : Fault := ⟨.os kind, osMessage kind path⟩

def nullFault : Fault := ⟨.badValue, "embedded null byte"⟩

/-- The greatest size of a name, in octets. -/
def nameLimit : Nat := 255

/-- The size that a path must stay below, in octets. -/
def pathLimit : Nat := 4096

namespace Path

def holdsNull (p : Path) : Bool := p.names.any fun name => name.toList.contains '\x00'

/-- A path with its leading home directory, written with a tilde, filled in. -/
def expand (p : Path) (homes : List (String × Path)) : Except Fault Path :=
  match p.anchor, p.names with
  | .here, first :: rest =>
    match first.toList with
    | '~' :: user =>
      if user.contains '\x00' then .error nullFault
      else match homes.lookup (String.ofList user) with
        | some home => .ok ⟨home.anchor, home.names ++ rest⟩
        | none => .error ⟨.badState, "Could not determine home directory."⟩
    | _ => .ok p
  | _, _ => .ok p

end Path

namespace Tree

def find? (t : Tree) (place : Location) : Option Entry :=
  if place.isEmpty then some .directory else t.entries.lookup place

def put (t : Tree) (place : Location) (e : Entry) : Tree :=
  if t.entries.any (·.1 == place) then
    { t with entries := t.entries.map fun old => if old.1 == place then (place, e) else old }
  else { t with entries := t.entries ++ [(place, e)] }

def look (t : Tree) (directory : Location) (name : String) : Except OsErrorKind Spot :=
  if name == dots then .ok (.taken directory.dropLast .directory)
  else if nameLimit < name.utf8ByteSize then .error .nameTooLong
  else match t.find? (directory ++ [name]) with
    | some e => .ok (.taken (directory ++ [name]) e)
    | none => .ok (.free (directory ++ [name]))

/-- Walks names from a directory; only the last one may lead to a free place. -/
def walk (t : Tree) (directory : Location) : List String → Except OsErrorKind Spot
  | [] => .ok (.taken directory .directory)
  | [name] => t.look directory name
  | name :: rest =>
    match t.look directory name with
    | .error kind => .error kind
    | .ok (.free _) => .error .notFound
    | .ok (.taken _ (.file _)) => .error .notDirectory
    | .ok (.taken next .directory) => t.walk next rest

def reach (t : Tree) (p : Path) : Except OsErrorKind Spot :=
  if pathLimit ≤ p.text.utf8ByteSize then .error .nameTooLong
  else t.walk (if p.isAbsolute then [] else t.here) p.names

/-- The entry at a path, if there is one. A path that is too long is refused. -/
def entry? (t : Tree) (p : Path) : Except Fault (Option Entry) :=
  if p.holdsNull then .ok none
  else match t.reach p with
    | .ok (.taken _ e) => .ok (some e)
    | .error .nameTooLong => .error (osFault .nameTooLong p)
    | _ => .ok none

def has (t : Tree) (p : Path) : Except Fault Bool := do return (← t.entry? p).isSome

def isDirectory (t : Tree) (p : Path) : Except Fault Bool := do
  return (← t.entry? p).any (·.isDirectory)

def resolve (t : Tree) (p : Path) : Except Fault Path :=
  if p.holdsNull then .error nullFault else .ok (.ofLocation (p.locate t.here))

def read (t : Tree) (p : Path) : Except Fault ByteArray :=
  if p.holdsNull then .error nullFault
  else match t.reach p with
    | .ok (.taken _ (.file content)) => .ok content
    | .ok (.taken _ .directory) => .error (osFault .isDirectory p)
    | .ok (.free _) => .error (osFault .notFound p)
    | .error kind => .error (osFault kind p)

/-- The text of the file at a path, its line breaks unified. -/
def readText (t : Tree) (p : Path) : Except Fault String := do
  match Text.Utf8.decode (← t.read p) with
  | .ok s => return String.ofList (Text.unifyBreaks s.toList)
  | .error f => throw ⟨.badText, f.message⟩

end Tree

/-- An action on a tree. A failed action keeps what it did before it failed. -/
abbrev Action := ExceptT Fault (StateM Tree)

namespace Action

def ask {α : Type} (f : Tree → Except Fault α) : Action α := do
  match f (← get) with
  | .ok a => return a
  | .error e => throw e

/-- Changes the content of the file at a path, which is made if its place is free. -/
def change (p : Path) (f : ByteArray → ByteArray) : Action Unit := do
  if p.holdsNull then throw nullFault
  match (← get).reach p with
  | .ok (.taken place (.file content)) => modify (·.put place (.file (f content)))
  | .ok (.free place) => modify (·.put place (.file (f ByteArray.empty)))
  | .ok (.taken _ .directory) => throw (osFault .isDirectory p)
  | .error kind => throw (osFault kind p)

def writeText (p : Path) (s : String) : Action Unit := change p fun _ => s.toUTF8

def appendText (p : Path) (s : String) : Action Unit := change p (· ++ s.toUTF8)

def makeDirectory (p : Path) : Action (Except OsErrorKind Unit) := do
  if p.holdsNull then throw nullFault
  match (← get).reach p with
  | .ok (.free place) => do
    modify (·.put place .directory)
    return .ok ()
  | .ok (.taken ..) => return .error .exists
  | .error kind => return .error kind

def acceptDirectory (p : Path) (kind : OsErrorKind) : Action Unit := do
  if kind == .notFound then throw (osFault kind p)
  if !(← ask (·.isDirectory p)) then throw (osFault kind p)

/-- Makes a directory at the path of an anchor and names given in reverse, together with those above
it. A directory above is looked at only when one is missing. -/
def makeUp (anchor : Anchor) : List String → Action Unit
  | [] => do
    let p : Path := ⟨anchor, []⟩
    match ← makeDirectory p with
    | .ok () => return
    | .error kind => acceptDirectory p kind
  | name :: above => do
    let p : Path := ⟨anchor, (name :: above).reverse⟩
    match ← makeDirectory p with
    | .ok () => return
    | .error .notFound => do
      makeUp anchor above
      match ← makeDirectory p with
      | .ok () => return
      | .error kind => acceptDirectory p kind
    | .error kind => acceptDirectory p kind

/-- Makes a directory together with those above it, unless it is there. -/
def makeDirectories (p : Path) : Action Unit := makeUp p.anchor p.names.reverse

end Action

end StructForge.Files

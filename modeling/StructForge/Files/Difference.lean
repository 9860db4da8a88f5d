import StructForge.Files.Tree

/-! # What changed in a tree -/

namespace StructForge.Files

namespace Tree

def below? (directory : Location) (place : Location) : Option String :=
  if directory.isPrefixOf place && place != directory then
    some ("/".intercalate (place.drop directory.length))
  else none

def changedFiles (before after : Tree) (directory : Location) : List (String × ByteArray) :=
  after.entries.filterMap fun (place, e) =>
    match e, below? directory place with
    | .file content, some path =>
      match before.entries.lookup place with
      | some (.file old) => if old.data == content.data then none else some (path, content)
      | _ => some (path, content)
    | _, _ => none

/-- The directories below a directory that an earlier tree lacks, in order. -/
def newDirectories (before after : Tree) (directory : Location) : List String :=
  let paths := after.entries.filterMap fun (place, e) =>
    if e.isDirectory && (before.entries.lookup place).isNone then below? directory place else none
  paths.mergeSort fun a b => !(b < a)

end Tree

end StructForge.Files

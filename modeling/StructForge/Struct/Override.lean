import StructForge.Files.Tree
import StructForge.Struct.Emit

/-! # Override templates in a directory -/

namespace StructForge.Struct

open Files

/-- The templates in a directory. What is no file there does not take the place of the standard
form. -/
def Templates.ofDirectory (e : Engine) (t : Tree) (directory : Path) : Templates := fun names =>
  let p : Path := ⟨directory.anchor, directory.names ++ names⟩
  match t.entry? p with
  | .ok (some (.file _)) => (t.readText p).map fun source => some ⟨source, e⟩
  | _ => .ok none

def Templates.ofDirectory? (e : Engine) (t : Tree) (directory : Option Path) : Templates :=
  directory.elim .standard (Templates.ofDirectory e t)

end StructForge.Struct

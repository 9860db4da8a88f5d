import StructForge.Struct.Render
import StructForge.Text.Split

/-! # Readable modules

The text of a module can be read when every place for a name holds one: the names of types and
imports, and the parts of dotted paths and slots. -/

namespace StructForge.Struct

open Text

/-- A path of names; the constants may stand at its head. -/
def isDottedName (s : String) : Bool :=
  match pieces '.' s with
  | head :: rest => (isName head || ["None", "True", "False"].contains head) && rest.all isName
  | [] => false

def isModulePath (s : String) : Bool :=
  let dots := s.toList.takeWhile (· == '.')
  let path := String.ofList (s.toList.dropWhile (· == '.'))
  if path.isEmpty then !dots.isEmpty else (pieces '.' path).all isName

def Binding.isReadable (b : Binding) : Bool := isName b.name && isName b.localName

def Content.isReadable : Content → Bool
  | .array element _ => isDottedName element
  | .map key value _ _ => isDottedName key && isDottedName value
  | .vector3 | .vector2 => true
  | .scalar type _ => isDottedName type

def StructModel.isReadable (m : StructModel) : Bool :=
  isName m.typeName && isDottedName m.sourceExpr &&
    (m.imports.all fun line => isModulePath line.module && line.names.all Binding.isReadable) &&
    m.slots.all fun s => (pieces '.' s.name).all isName && s.content.isReadable

end StructForge.Struct

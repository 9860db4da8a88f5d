import StructForge.Live.Resolve
import StructForge.Schema.Source

/-! # Describing classes

A resolved hint is described as a `TypeRef`. Lists and dictionaries of either spelling are described
with their arguments; whatever is neither of these nor a class is described by its text alone. The
public fields of a class are those of its nearest dataclass ancestor, if it has one, and otherwise
its hints without class variables and initialisers. -/

namespace StructForge.Live

open Schema

/-- The description of an object that is no class: its text without the library's name. -/
def describeText (h : Hint) : TypeRef :=
  let name := Text.remove "typing." h.text
  .leaf name "" name .other

def describeAs (c : ClassRef) (shape : Shape) : TypeRef :=
  .leaf c.label.name c.label.module c.label.qualname shape

namespace Registry

/-- Whether the members met in an enum class are all whole numbers, and there are some. -/
def isIntValued (r : Registry) (c : ClassRef) : Bool :=
  let members := r.iterated c
  !members.isEmpty && members.all fun m => match m.value with
    | .int _ => true
    | .member _ base _ _ => base.isInt
    | _ => false

def describeClass (r : Registry) (c : ClassRef) : TypeRef :=
  match c with
  | .vector3 => describeAs c .vector3
  | .vector2 => describeAs c .vector2
  | .number _ => describeAs c .primitive
  | c =>
    if c.enumBase?.isSome then
      .mk c.label.name c.label.module c.label.qualname .enum [] (r.isIntValued c)
    else if [ClassRef.builtin "bool", .builtin "int", .builtin "float"].contains c then
      describeAs c .primitive
    else describeAs c .other

end Registry

mutual

def Hint.describe (r : Registry) : Hint → TypeRef
  | .cls (.builtin "list") | .capital .list => .mk "list" "builtins" "list" .sequence [] false
  | .cls (.builtin "dict") | .capital .dict => .mk "dict" "builtins" "dict" .mapping [] false
  | .generic .list args | .capitalGeneric .list args =>
    .mk "list" "builtins" "list" .sequence (describeAll r args) false
  | .generic .dict args | .capitalGeneric .dict args =>
    .mk "dict" "builtins" "dict" .mapping (describeAll r args) false
  | .cls c => r.describeClass c
  | h => describeText h

def describeAll (r : Registry) : List Hint → List TypeRef
  | [] => []
  | h :: hs => h.describe r :: describeAll r hs

end

def Hint.isField : Hint → Bool
  | .classVar _ | .anyClassVar | .initVar _ => false
  | _ => true

namespace Registry

def fieldNames (r : Registry) (c : ClassRef) (hints : List (String × Hint)) : List String :=
  match r.collected? c with
  | some names => (names.filter (·.2 == .field)).map (·.1)
  | none => (hints.filter (·.2.isField)).map (·.1)

def isPublic (name : String) : Bool := name.toList.head? != some '_'

def publicFields (r : Registry) (c : ClassRef) (hints : List (String × Hint)) : List Field :=
  ((r.fieldNames c hints).filter isPublic).filterMap fun name =>
    (hints.lookup name).map fun h => ⟨name, h.describe r⟩

/-- Why a value cannot be described. -/
inductive DescribeFault where
  | notClass (shown : String)
  | unresolved (qualname reason : String)
  | raised (f : Fault)
  deriving DecidableEq, Repr

def DescribeFault.message : DescribeFault → String
  | .notClass shown => s!"Expected a class, got {shown}"
  | .unresolved qualname reason => s!"Cannot resolve annotations of {qualname}: {reason}"
  | .raised f => f.message

def DescribeFault.fault : DescribeFault → Fault
  | .raised f => f
  | f => ⟨.badType, f.message⟩

def describe (r : Registry) (c : ClassRef) : Except DescribeFault Source :=
  match r.resolvedHints c with
  | .error reason => .error (.unresolved c.label.qualname reason)
  | .ok hints =>
    .ok ⟨c.label.name, c.label.module, c.label.qualname, r.publicFields c hints⟩

def describeValue (r : Registry) (v : Value) : Except DescribeFault Source :=
  match v with
  | .hint (.cls c) => r.describe c
  | v => .error (.notClass v.shown)

end Registry

end StructForge.Live

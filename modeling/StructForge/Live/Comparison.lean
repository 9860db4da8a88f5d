import StructForge.Live.Describe

/-! # Objects that compare themselves

A class is described as one of numbers if it equals one of them. Whether it does is asked of the
class itself or of the object that stands in its place, which may say so of itself, or fail; an
object that equals a class of numbers need not have a name to be described by. In a program whose
objects say nothing of the kind every hint is described. -/

namespace StructForge.Live

open Schema

/-- What the classes that a program defines, and its other objects, answer when they are compared
with the classes of numbers, and where such an object is said to be found. -/
structure Comparison where
  ofClass : Nat → Except Fault Bool := fun _ => .ok false
  ofObject : ObjectRef → Except Fault Bool := fun _ => .ok false
  label : ObjectRef → Except Fault Label := fun o =>
    .error ⟨.missingAttribute, s!"'{o.typeName}' object has no attribute '__name__'"⟩

namespace Comparison

/-- Whether a hint that is no container, no vector and no enum equals a class of numbers. -/
def isNumeric (k : Comparison) : Hint → Except Fault Bool
  | .cls (.defined index _ none) => k.ofClass index
  | .cls (.number _) => .ok true
  | .cls (.builtin name) => .ok (["bool", "int", "float"].contains name)
  | .object o => k.ofObject o
  | _ => .ok false

/-- Where a hint is found that equals a class of numbers. -/
def labelOf (k : Comparison) : Hint → Except Fault Label
  | .cls c => .ok c.label
  | .object o => k.label o
  | h => .error ⟨.missingAttribute,
      s!"'{(Value.hint h).typeName}' object has no attribute '__name__'"⟩

def describeLeaf (k : Comparison) (r : Registry) (h : Hint) : Except Fault TypeRef := do
  if ← k.isNumeric h then
    let l ← k.labelOf h
    return .leaf l.name l.module l.qualname .primitive
  else return h.describe r

end Comparison

mutual

/-- The description of a hint, if the objects in it can be compared and are found somewhere. -/
def Hint.describeBy (k : Comparison) (r : Registry) : Hint → Except Fault TypeRef
  | .generic .list args | .capitalGeneric .list args => do
    return .mk "list" "builtins" "list" .sequence (← describeAllBy k r args) false
  | .generic .dict args | .capitalGeneric .dict args => do
    return .mk "dict" "builtins" "dict" .mapping (← describeAllBy k r args) false
  | h => k.describeLeaf r h

def describeAllBy (k : Comparison) (r : Registry) : List Hint → Except Fault (List TypeRef)
  | [] => .ok []
  | h :: hs => do
    let first ← h.describeBy k r
    return first :: (← describeAllBy k r hs)

end

namespace Registry

def publicFieldsBy (k : Comparison) (r : Registry) (c : ClassRef) (hints : List (String × Hint)) :
    Except Fault (List Field) :=
  let named := ((r.fieldNames c hints).filter isPublic).filterMap fun name =>
    (hints.lookup name).map fun h => (name, h)
  named.mapM fun (name, h) => return ⟨name, ← h.describeBy k r⟩

def describeBy (k : Comparison) (r : Registry) (c : ClassRef) : Except DescribeFault Source :=
  match r.resolvedHints c with
  | .error reason => .error (.unresolved c.label.qualname reason)
  | .ok hints =>
    match r.publicFieldsBy k c hints with
    | .error f => .error (.raised f)
    | .ok fields => .ok ⟨c.label.name, c.label.module, c.label.qualname, fields⟩

end Registry

end StructForge.Live

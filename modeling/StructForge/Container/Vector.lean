import StructForge.Container.Storage

/-! # Vectors of single-precision numbers

A vector has two or three components, which are rounded when it is made and do not change. -/

namespace StructForge.Container

open Live Number

def componentNames : List String := ["x", "y", "z"]

def raggedFault (count : Nat) : Fault :=
  ⟨.badValue, "setting an array element with a sequence. The requested array has an " ++
    s!"inhomogeneous shape after 1 dimensions. The detected shape was ({count},) + inhomogeneous part."⟩

/-- The vector with the given components, or the zero vector if none are given. -/
def vector (width : Nat) (components : List Value) : Except Fault Value :=
  if components.isEmpty then .ok (.single (List.replicate width .zero))
  else if components.length ≠ width then
    .error ⟨.badType, s!"float{width} takes {width} components, got {components.length}"⟩
  else if components.any isSequence then .error (raggedFault components.length)
  else do return .single (← components.mapM (component .single))

/-- Values without those that equal an earlier one. Every value must be able to be a key. -/
def distinctKeys (vs : List Value) : Except Fault (List Value) :=
  vs.foldlM (fun kept v =>
    match v.unhashable? with
    | some name => .error ⟨.badType, s!"unhashable type: '{name}'"⟩
    | none => .ok (if kept.any (·.equals v) then kept else kept ++ [v])) []

def assignFault (width : Nat) (name : String) : Fault :=
  if (componentNames.take width).contains name then
    ⟨.missingAttribute, s!"property '{name}' of 'float{width}' object has no setter"⟩
  else ⟨.missingAttribute, s!"'float{width}' object has no attribute '{name}'"⟩

end StructForge.Container

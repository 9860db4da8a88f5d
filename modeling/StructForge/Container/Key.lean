import StructForge.Live.Value

/-! # Keys

A table compares its keys as objects: a key is found again as the same object, or by another one of
the same hash that equals it. Which objects there are is left open, and so is how each of them
compares itself. -/

namespace StructForge.Container

open Live

/-- Objects that a table may be asked about. `isFor stored asked` says whether a stored key is the
object that is asked for or has its hash and equals it; `unhashable?` names the type of what keeps an
object from having a hash. -/
class Key (κ : Type) where
  isFor : κ → κ → Bool
  unhashable? : κ → Option String
  shown : κ → String

/-- Every value is an object of its own, so that only what is equal is found. -/
instance : Key Value where
  isFor := Value.equals
  unhashable? := Value.unhashable?
  shown := Value.shown

end StructForge.Container

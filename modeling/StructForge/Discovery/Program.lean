import StructForge.Discovery.Marker
import StructForge.Discovery.Module
import StructForge.Live.Comparison

/-! # What a search follows

A search follows the names of modules and then the registered entries. Following one may run modules
and so change what is defined for those after it. -/

namespace StructForge.Discovery

open Live

/-- What a registered entry stands for. -/
inductive Loaded where
  | module (name : String)
  | value (v : Value)
  deriving Repr

def Loaded.classes? (r : Registry) : Loaded → Option (List ClassRef)
  | .module name => some (markedClasses r name)
  | .value (.hint (.cls c)) => if isMarked r c then some [c] else none
  | .value _ => none

/-- A registered entry; loading it may fail with a message. -/
structure Entry where
  name : String
  load : Registry → Except String (Loaded × Registry)

/-- The marked classes that an entry stands for, with what is defined once it is loaded. -/
def Entry.classes (r : Registry) (e : Entry) : Except Fault (List ClassRef × Registry) :=
  match e.load r with
  | .error message => .error ⟨.badState, s!"Failed to load type entry point '{e.name}': {message}"⟩
  | .ok (loaded, r) =>
    match loaded.classes? r with
    | some classes => .ok (classes, r)
    | none =>
      .error ⟨.badType, s!"Type entry point '{e.name}' must be a module or a marked class"⟩

/-- What a search follows. -/
inductive Lead where
  | module (name : String)
  | entry (e : Entry)

/-- The marked classes that a lead leads to, with what is defined once it was followed. -/
def Lead.classes (load : Loader) (r : Registry) : Lead → Except Fault (List ClassRef × Registry)
  | .module name => do
    let r ← load name r
    return (markedClasses r name, r)
  | .entry e => e.classes r

end StructForge.Discovery

namespace StructForge

open Live Discovery

/-- What a program offers to a search: the classes and modules that are defined, the registered
entries, how modules are loaded, and how its objects compare with the classes of numbers. -/
structure Program where
  registry : Registry := {}
  entries : List Discovery.Entry := []
  load : Loader := loadPresent
  comparison : Comparison := {}

/-- What a search follows that is given the names of modules, and may include the entries. -/
def Program.leads (p : Program) (modules : List String) (included : Bool) : List Lead :=
  modules.map .module ++ if included then p.entries.map .entry else []

end StructForge

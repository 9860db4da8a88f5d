import StructForge.Discovery.Program
import StructForge.Log

/-! # Finding marked classes

Marked classes are found module by module and then by the registered entries. A class that is
reached twice is met once. A class that cannot be described is a failure of its own, or of the whole
search if nobody asks for such failures. -/

namespace StructForge.Discovery

open Live Schema

/-- The marked classes that leads lead to, in order, with what is defined at the end. -/
def collect (load : Loader) (r : Registry) : List Lead → Except Fault (List ClassRef × Registry)
  | [] => .ok ([], r)
  | lead :: rest => do
    let (classes, r) ← lead.classes load r
    let (more, r) ← collect load r rest
    return (classes ++ more, r)

def classKey (c : ClassRef) : String × String := (c.label.module, c.label.qualname)

/-- Classes without those that were met before, here or among the given keys. -/
def firstOnly (met : List (String × String)) : List ClassRef → List ClassRef
  | [] => []
  | c :: rest =>
    if met.contains (classKey c) then firstOnly met rest
    else c :: firstOnly (classKey c :: met) rest

/-- A class that could not be described. -/
structure Failure where
  label : Label
  message : String
  deriving DecidableEq, Repr

/-- The result of a search. -/
structure Found where
  described : List Source
  failures : List Failure
  log : List LogRecord
  deriving Repr

def searchLogger : String := loggerName "discovery"

/-- Describes classes, and hands over those that cannot be described if failures are `handled`. What
is no describing failure is not handled. -/
def describeEach (k : Comparison) (r : Registry) (handled : Bool) :
    List ClassRef → Except Fault (List Source) × List Failure
  | [] => (.ok [], [])
  | c :: rest =>
    match r.describeBy k c with
    | .ok s =>
      let (result, failures) := describeEach k r handled rest
      (result.map (s :: ·), failures)
    | .error f =>
      if f.fault.kind ≠ .badType then (.error f.fault, [])
      else if handled then
        let (result, failures) := describeEach k r handled rest
        (result, ⟨c.label, f.message⟩ :: failures)
      else (.error ⟨.badState,
        s!"Cannot describe {c.label.module}.{c.label.qualname}: {f.message}"⟩, [])

def Failure.record (f : Failure) : LogRecord :=
  ⟨.error, searchLogger, s!"Skipping {f.label.module}.{f.label.qualname}: {f.message}"⟩

/-- A failure that ends a search, after some classes were handed over that cannot be described. -/
structure SearchFault where
  fault : Fault
  failures : List Failure := []
  deriving DecidableEq, Repr

/-- The records of a search until it fails. -/
def SearchFault.log (f : SearchFault) : List LogRecord := f.failures.map (·.record)

/-- Finds marked classes and describes them. Unless failures are `handled`, the first one fails the
search. -/
def discover (p : Program) (modules : List String) (included handled : Bool) :
    Except SearchFault Found := do
  let (classes, r) ← (collect p.load p.registry (p.leads modules included)).mapError
    fun f => { fault := f }
  let (result, failures) := describeEach p.comparison r handled (firstOnly [] classes)
  let described ← result.mapError fun f => ⟨f, failures⟩
  let last : LogRecord :=
    ⟨.debug, searchLogger, s!"Discovered {described.length} marked types"⟩
  return ⟨described, failures, failures.map (·.record) ++ [last]⟩

end StructForge.Discovery

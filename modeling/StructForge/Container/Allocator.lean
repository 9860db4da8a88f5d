import StructForge.Live.Value
import StructForge.Fault

/-! # Allocators

A container is made with an allocator. The one that allocates nothing marks containers without
storage and cannot be asked for. -/

namespace StructForge.Container

open Live

inductive Allocator where
  | none
  | temp
  | tempJob
  | persistent
  deriving DecidableEq, Repr

namespace Allocator

def all : List Allocator := [.none, .temp, .tempJob, .persistent]

def name : Allocator → String
  | .none => "NONE"
  | .temp => "TEMP"
  | .tempJob => "TEMP_JOB"
  | .persistent => "PERSISTENT"

def number : Allocator → Nat
  | .none => 0
  | .temp => 1
  | .tempJob => 2
  | .persistent => 3

def ofName? (s : String) : Option Allocator := all.find? (·.name == s)

def shown (a : Allocator) : String := s!"<Allocator.{a.name}: {a.number}>"

end Allocator

inductive Given where
  | allocator (a : Allocator)
  | value (v : Value)
  deriving Repr

namespace Given

def shown : Given → String
  | .allocator a => a.shown
  | .value v => v.shown

def check (g : Given) : Except Fault Allocator :=
  match g with
  | .allocator .none | .value _ =>
    .error ⟨.badValue, s!"Containers need a real allocator, got {g.shown}"⟩
  | .allocator a => .ok a

end Given

def disposedFault (container : String) : Fault :=
  ⟨.disposed, s!"{container} has not been allocated or was already disposed"⟩

/-- Checks that a number is not negative; `what` names it. -/
def checkNonNegative (what : String) (v : Value) : Except Fault Unit :=
  let negative := match v.numeric? with
    | some (.whole i) => some (decide (i < 0))
    | some (.real x) => some (x.ltInt 0)
    | none => none
  match negative with
  | none => .error ⟨.badType, s!"'<' not supported between instances of '{v.typeName}' and 'int'"⟩
  | some true => .error ⟨.badValue, s!"{what} must be non-negative, got {v.display}"⟩
  | some false => .ok ()

end StructForge.Container

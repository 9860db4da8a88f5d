import StructForge.Schema.TypeRef

/-! # Imports of a generated module

A generated module binds every name it imports once. A second type of the same short name from
another module is imported under an alias made of its module path. The names of the container
library and the numeric library are bound apart from these. -/

namespace StructForge.Struct

/-- The names that a generated module takes from the container library. -/
inductive RuntimeName where
  | allocator
  | array
  | map
  | float2
  | float3
  deriving DecidableEq, Repr

namespace RuntimeName

def all : List RuntimeName := [.allocator, .array, .map, .float2, .float3]

def text : RuntimeName → String
  | .allocator => "Allocator"
  | .array => "NativeArray"
  | .map => "NativeHashMap"
  | .float2 => "float2"
  | .float3 => "float3"

end RuntimeName

structure Binding where
  module : String
  name : String
  localName : String
  deriving DecidableEq, Repr

/-- The imports collected so far, in the order in which they were asked for. -/
structure Imports where
  bindings : List Binding := []
  runtime : List RuntimeName := []
  needsNumpy : Bool := false
  deriving Repr

/-- Why a type cannot be imported. -/
inductive ImportFault where
  | unreachable (qualname : String)
  | shadowing (module name localName : String)
  deriving DecidableEq, Repr

def ImportFault.message : ImportFault → String
  | .unreachable qualname => s!"{qualname} cannot be imported by generated code"
  | .shadowing module name localName =>
    s!"Cannot import {module}.{name} without shadowing {localName}"

/-- Splits a dotted name after its first part; the rest keeps its dot. -/
def splitHead (qualname : String) : String × String :=
  let cs := qualname.toList
  (String.ofList (cs.takeWhile (· != '.')), String.ofList (cs.dropWhile (· != '.')))

def aliasOf (module name : String) : String :=
  let path := module.toList.map fun c => if c = '.' then '_' else c
  String.ofList path ++ "_" ++ name

def occursIn (part : List Char) : List Char → Bool
  | [] => part.isEmpty
  | c :: rest => part.isPrefixOf (c :: rest) || occursIn part rest

/-- Whether a dotted name passes through the inside of a function. -/
def isLocal (qualname : String) : Bool := occursIn "<locals>".toList qualname.toList

namespace Imports

def find? (i : Imports) (module name : String) : Option Binding :=
  i.bindings.find? fun b => b.module == module && b.name == name

def isBound (i : Imports) (localName : String) : Bool :=
  i.bindings.any (·.localName == localName)

def bind (i : Imports) (module name : String) : Except ImportFault (String × Imports) :=
  match i.find? module name with
  | some b => .ok (b.localName, i)
  | none =>
    let localName := if i.isBound name then aliasOf module name else name
    if i.isBound localName then .error (.shadowing module name localName)
    else .ok (localName, { i with bindings := i.bindings ++ [⟨module, name, localName⟩] })

/-- The expression that denotes a type, given by its module and its place there. -/
def expression (i : Imports) (module qualname : String) : Except ImportFault (String × Imports) :=
  if module = "builtins" then .ok (qualname, i)
  else if module = "numpy" then .ok ("np." ++ qualname, { i with needsNumpy := true })
  else if module.isEmpty || isLocal qualname then .error (.unreachable qualname)
  else do
    let (head, rest) := splitHead qualname
    let (localName, i) ← i.bind module head
    return (localName ++ rest, i)

def reference (i : Imports) (r : Schema.TypeRef) : Except ImportFault (String × Imports) :=
  i.expression r.module r.qualname

def use (i : Imports) (names : List RuntimeName) : Imports :=
  { i with runtime := i.runtime ++ names }

/-- The names of the container library, sorted and without repetition. -/
def runtimeNames (i : Imports) : List RuntimeName := RuntimeName.all.filter i.runtime.contains

end Imports

def insertByText {α : Type} (key : α → String) (x : α) : List α → List α
  | [] => [x]
  | y :: ys => if key y < key x then y :: insertByText key x ys else x :: y :: ys

/-- Sorting by a text, in the order of code points. -/
def sortByText {α : Type} (key : α → String) (xs : List α) : List α :=
  xs.foldr (insertByText key) []

structure ImportLine where
  module : String
  names : List Binding
  deriving DecidableEq, Repr

def Binding.text (b : Binding) : String :=
  if b.localName = b.name then b.name else s!"{b.name} as {b.localName}"

def Imports.lines (i : Imports) : List ImportLine :=
  let modules := sortByText id (i.bindings.map (·.module)).eraseDups
  modules.map fun m => ⟨m, sortByText (·.name) (i.bindings.filter (·.module == m))⟩

end StructForge.Struct

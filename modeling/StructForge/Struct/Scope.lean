import StructForge.Container.FixedArray
import StructForge.Container.GrowingMap
import StructForge.Container.Vector
import StructForge.Live.Item
import StructForge.Live.Name
import StructForge.Live.Resolve
import StructForge.Struct.Model
import StructForge.Text.Split

/-! # Names of a generated module

The expressions of a generated module are evaluated in a scope. A scope is made by the imports of
the module and its struct; of several bindings of one name the latest counts, and a name without a
binding is a built-in one or stands for nothing. The expressions stand in methods of the struct, so
that their names are read as in the body of its class. -/

namespace StructForge.Struct

open Live Container

/-- The bindings of a module, the latest first, and the name of its class. -/
structure Scope where
  registry : Registry
  owner : String
  bindings : List (String × Value)

/-- What a name of the container library stands for. The allocators are no value. -/
def RuntimeName.value? : RuntimeName → Option Value
  | .allocator => none
  | .array => some (.hint (.cls .array))
  | .map => some (.hint (.cls .map))
  | .float2 => some (.hint (.cls .float2))
  | .float3 => some (.hint (.cls .float3))

/-- An attribute of a module. The bases of enums are in a module that is always there. -/
def moduleAttribute? (r : Registry) (module name : String) : Option Value :=
  match r.module? module with
  | some m => m.attributes.lookup name
  | none =>
    if module = "enum" then (EnumBase.ofName? name).map fun b => .hint (.cls (.enumBase b))
    else none

def allocatorClass (r : Registry) : ClassRef :=
  .defined (r.classes.length + 1) ⟨"Allocator", runtimeModule, "Allocator"⟩ (some .plain)

def givenValue (r : Registry) : Given → Value
  | .allocator a => .member (allocatorClass r) .plain a.name (.int a.number)
  | .value v => v

def Binding.load (r : Registry) (b : Binding) : Except Fault (String × Value) :=
  let module := Text.normal b.module
  let name := Text.normal b.name
  match moduleAttribute? r module name with
  | some v => .ok (Text.normal b.localName, v)
  | none =>
    .error ⟨.notImportable,
      s!"cannot import name {Text.quoted name} from {Text.quoted module} (unknown location)"⟩

def StructModel.cls (m : StructModel) (r : Registry) : ClassRef :=
  .defined r.classes.length ⟨m.className, "", m.className⟩ none

/-- The failure of a call with a number of arguments that the called object does not take. -/
def callFault (r : Registry) (callee : Value) (count : Nat) : Fault :=
  match callee with
  | .hint (.cls c) =>
    match r.collected? c with
    | some names =>
      let taken := (names.filter (·.2 != .classVariable)).length + 1
      ⟨.badType, s!"{c.label.qualname}.__init__() takes {taken} positional arguments but " ++
        s!"{count + 1} were given"⟩
    | none =>
      if (r.info? c).isSome then ⟨.badType, s!"{c.name}() takes no arguments"⟩
      else ⟨.badType, s!"{c.name}.__init__() takes 2 positional arguments but " ++
        s!"{count + 1} were given"⟩
  | v => v.callFault

def objectOf (c : ClassRef) (fields : List (String × Value)) : Value :=
  match c, fields with
  | .vector2, [(_, x), (_, y)] => .vector2 x y
  | .vector3, [(_, x), (_, y), (_, z)] => .vector3 x y z
  | c, fields => .object c fields

/-- What a call of a value makes of some arguments. A dataclass takes an argument for each of its
fields and initialisers, and its object keeps the fields; another class of the program takes none. -/
def callValue (r : Registry) (callee : Value) (args : List Value) : Except Fault Value :=
  match callee with
  | .hint (.cls c) =>
    match r.collected? c, r.info? c with
    | some names, _ =>
      let parameters := names.filter (·.2 != .classVariable)
      if parameters.length = args.length then
        .ok (objectOf c ((parameters.zip args).filterMap fun ((name, sort), v) =>
          if sort = .field then some (name, v) else none))
      else .error (callFault r callee args.length)
    | none, some { body := .record .., .. } =>
      if args.isEmpty then .ok (.object c []) else .error (callFault r callee args.length)
    | none, _ => .error (callFault r callee args.length)
  | callee => .error (callFault r callee args.length)

namespace Scope

/-- The scope of a module. The first import that finds nothing fails it. -/
def load (r : Registry) (m : StructModel) : Except Fault Scope := do
  let library := m.runtimeImports.filterMap fun n => n.value?.map fun v => (n.text, v)
  let imported ← (m.imports.flatMap (·.names)).mapM (Binding.load r)
  return {
    registry := r
    owner := m.className
    bindings := (m.className, .hint (.cls (m.cls r))) :: (imported.reverse ++ library) }

def find (s : Scope) (name : String) : Value :=
  (s.bindings.lookup name).getD (.hint (.cls (.builtin name)))

def getAttribute (s : Scope) (v : Value) (name : String) : Except Fault Value :=
  match s.registry.attribute? v name with
  | some a => .ok a
  | none => .error (v.attributeFault name)

def named (s : Scope) (name : String) : Except Fault Value :=
  if (s.bindings.lookup name).isSome || builtinClasses.contains name then .ok (s.find name)
  else .error ⟨.unboundName, s!"name {Text.quoted name} is not defined"⟩

def value (s : Scope) (e : String) : Except Fault Value :=
  match (Text.pieces '.' e).map (Text.readIn s.owner) with
  | [] => s.named e
  | head :: names =>
    match s.bindings.lookup head, head, names with
    | none, "np", [name] => .ok (.hint (.cls (.ofNumericName name)))
    | _, _, _ => do names.foldlM s.getAttribute (← s.named head)

def allocator (s : Scope) : Except Fault Given :=
  match s.bindings.lookup "Allocator" with
  | none => .ok (.allocator .persistent)
  | some v => do return .value (← s.getAttribute v "PERSISTENT")

/-- A new array, or what a class that has taken its name makes. -/
def array (s : Scope) (element : String) (length : Except Fault Nat) :
    Except Fault (FixedArray ⊕ Value) := do
  let element ← s.value element
  let n ← length
  let given ← s.allocator
  match s.find RuntimeName.array.text with
  | .hint (.cls .array) => return .inl (← FixedArray.create s.registry.platform element (.int n) given)
  | callee =>
    return .inr (← callValue s.registry callee [element, .int n, givenValue s.registry given])

/-- A new map, or what a class that has taken its name makes. -/
def map (s : Scope) (key value : String) (capacity : Except Fault Nat) :
    Except Fault (GrowingMap Value ⊕ Value) := do
  let key ← s.value key
  let value ← s.value value
  let n ← capacity
  let given ← s.allocator
  match s.find RuntimeName.map.text with
  | .hint (.cls .map) => return .inl (← GrowingMap.create key value (.int n) given)
  | callee =>
    return .inr (← callValue s.registry callee [key, value, .int n, givenValue s.registry given])

/-- An array without storage, or what a class that has taken its name makes. -/
def unallocatedArray (s : Scope) (element : String) : Except Fault (FixedArray ⊕ Value) := do
  match s.find RuntimeName.array.text with
  | .hint (.cls .array) => return .inl (.unallocated (← s.value element))
  | callee =>
    let maker ← s.getAttribute callee "unallocated"
    return .inr (← callValue s.registry maker [← s.value element])

/-- A map without storage, or what a class that has taken its name makes. -/
def unallocatedMap (s : Scope) (key value : String) : Except Fault (GrowingMap Value ⊕ Value) := do
  match s.find RuntimeName.map.text with
  | .hint (.cls .map) => return .inl (.unallocated (← s.value key) (← s.value value))
  | callee =>
    let maker ← s.getAttribute callee "unallocated"
    return .inr (← callValue s.registry maker [← s.value key, ← s.value value])

/-- A vector of three components, or the zero vector if none are given. -/
def vector3 (s : Scope) (components : List Value) : Except Fault Value :=
  match s.find RuntimeName.float3.text with
  | .hint (.cls .float3) => vector 3 components
  | callee => callValue s.registry callee components

/-- A vector of two components, or the zero vector if none are given. -/
def vector2 (s : Scope) (components : List Value) : Except Fault Value :=
  match s.find RuntimeName.float2.text with
  | .hint (.cls .float2) => vector 2 components
  | callee => callValue s.registry callee components

def literal (text : String) : Value :=
  if text = "False" then .bool false else if text = "0" then .int 0 else .float .zero

def firstMember (s : Scope) (v : Value) : Except Fault Value :=
  match v with
  | .hint (.cls c) =>
    match c.enumBase?, s.registry.iterated c with
    | some base, m :: _ => .ok (Registry.memberValue c base m)
    | some _, [] => .error ⟨.exhausted, ""⟩
    | none, _ => .error ⟨.badType, s!"'{v.typeName}' object is not iterable"⟩
  | v => .error ⟨.badType, s!"'{v.typeName}' object is not iterable"⟩

def construct (s : Scope) (v : Value) : Except Fault Value :=
  match v with
  | .hint (.cls (.number kind)) => .ok (.number kind (.zero kind))
  | v => callValue s.registry v [.int 0]

def zero (s : Scope) (type : String) : Zero → Except Fault Value
  | .literal text => .ok (literal text)
  | .firstMember => do s.firstMember (← s.value type)
  | .construct => do s.construct (← s.value type)

end Scope

end StructForge.Struct

import StructForge.Live.Describe
import StructForge.Struct.Emit
import StructForge.Struct.Part

/-! # A source object and its struct

A pairing holds a source object together with the struct last made, from it or by default. A
step that fails keeps what it did before it failed. -/

namespace StructForge.Struct

open Live Container Schema

/-- A source object of a class, and the struct last made. Cells are numbered in the order in which
they are given out. -/
structure Pairing where
  model : StructModel
  scope : Scope
  source : ClassRef
  attributes : List (String × Held) := []
  cells : Nat := ownCell
  record : Option Record := none

inductive PairStep where
  | convert (attributes : List (String × Value))
  | default
  | setSourceItem (name : String) (key v : Value)
  | set (name : String) (v : Value)
  | setItem (name : String) (key v : Value)
  | disposePart (name : String)
  | dispose
  | enter
  | leave
  deriving Repr

def attributesOf? : List Value → Option (List (String × Value))
  | [] => some []
  | .list [.text name, v] :: rest => (attributesOf? rest).map ((name, v) :: ·)
  | _ => none

def PairStep.ofName? (name : String) (args : List Value) : Option PairStep :=
  match name, args with
  | "convert", [.list attributes] => (attributesOf? attributes).map .convert
  | "default", [] => some .default
  | "source_set", [.text name, key, v] => some (.setSourceItem name key v)
  | "set", [.text name, v] => some (.set name v)
  | "field_set", [.text name, key, v] => some (.setItem name key v)
  | "dispose_field", [.text name] => some (.disposePart name)
  | "dispose", [] => some .dispose
  | "enter", [] => some .enter
  | "exit", [] => some .leave
  | _, _ => none

abbrev PairWork := ExceptT Fault (StateM Pairing)

def Held.update (cell : Nat) (v : Value) (h : Held) : Held :=
  if h.cell = cell && cell != ownCell then { h with value := v } else h

def Part.update (cell : Nat) (v : Value) : Part → Part
  | .plain h => .plain (h.update cell v)
  | p => p

namespace PairWork

def noRecord (name : String) : Fault := Value.attributeFault .none name

def outcome {α : Type} : Except Fault α → PairWork α
  | .ok a => return a
  | .error f => throw f

/-- The struct last made; `name` is what it is asked for. -/
def getRecord (name : String) : PairWork Record := do
  match (← get).record with
  | some r => return r
  | none => throw (noRecord name)

def getPart (name : String) : PairWork Part := do outcome ((← getRecord name).part name)

def putPart (name : String) (p : Part) : PairWork Unit :=
  modify fun s => { s with record := s.record.map (·.put name p) }

def hold (v : Value) : PairWork Held := do
  let cell := (← get).cells + 1
  modify fun s => { s with cells := cell }
  return ⟨cell, v⟩

def change (cell : Nat) (v : Value) : PairWork Unit :=
  modify fun s =>
    { s with
      attributes := s.attributes.map fun (n, h) => (n, h.update cell v)
      record := s.record.map fun r =>
        { r with parts := r.parts.map fun (n, p) => (n, p.update cell v) } }

def setAttributes : List (String × Value) → PairWork Unit
  | [] => return
  | (name, v) :: rest => do
    let h ← hold v
    modify fun s => { s with attributes := assign name h s.attributes }
    setAttributes rest

end PairWork

/-- An attribute of the source object: its own, or one of its class. -/
def Pairing.attribute (s : Pairing) (name : String) : Except Fault Held :=
  match s.attributes.lookup name with
  | some h => .ok h
  | none =>
    match s.scope.registry.attribute? (.hint (.cls s.source)) name with
    | some v => .ok ⟨ownCell, v⟩
    | none =>
      .error ⟨.missingAttribute, s!"'{s.source.name}' object has no attribute '{name}'"⟩

def Part.dispose (p : Part) : Except Fault Part :=
  match p with
  | .array a => do return .array (← a.dispose)
  | .map m => do return .map (← m.dispose)
  | .plain h => do throw (← h.value.getAttribute "dispose").callFault

def Part.isCreated (p : Part) : Except Fault Bool :=
  match p with
  | .array a => .ok a.isCreated
  | .map m => .ok m.isCreated
  | .plain h => do return (← h.value.getAttribute "is_created").isTrue

namespace PairWork

/-- Releases the contents of slots that have storage. -/
def disposeAll : List String → PairWork Unit
  | [] => return
  | name :: rest => do
    let p ← getPart name
    if ← outcome p.isCreated then putPart name (← outcome p.dispose)
    disposeAll rest

def setPartItem (name : String) (key v : Value) : PairWork Unit := do
  match ← getPart name with
  | .array a => putPart name (.array (← outcome (a.set key v)))
  | .map _ => throw ⟨.badType, "'NativeHashMap' object does not support item assignment"⟩
  | .plain h => do
    let w ← outcome (h.value.setItem key v)
    if h.cell = ownCell then putPart name (.ofValue w) else change h.cell w

/-- Makes a step; only entering answers something. -/
def run : PairStep → PairWork Value
  | .convert attributes => do
    setAttributes attributes
    let s ← get
    let r ← outcome (Record.convert s.model s.scope s.attribute)
    modify fun s => { s with record := some r }
    return .none
  | .default => do
    let s ← get
    let r ← outcome (Record.default s.model s.scope)
    modify fun s => { s with record := some r }
    return .none
  | .setSourceItem name key v => do
    let h ← outcome ((← get).attribute name)
    change h.cell (← outcome (h.value.setItem key v))
    return .none
  | .set name v => do
    outcome ((← getRecord name).checkSlot name v.typeName)
    putPart name (.ofValue v)
    return .none
  | .setItem name key v => do
    setPartItem name key v
    return .none
  | .disposePart name => do
    putPart name (← outcome (← getPart name).dispose)
    return .none
  | .dispose => do
    let _ ← getRecord "dispose"
    disposeAll ((← get).model.releases.map (← get).model.read)
    return .none
  | .enter => do
    let _ ← getRecord "__enter__"
    return .bool true
  | .leave => do
    let _ ← getRecord "__exit__"
    disposeAll ((← get).model.releases.map (← get).model.read)
    return .none

end PairWork

def Pairing.fields (r : Registry) (n : Naming) (v : Value) :
    Except Fault (Target × List Descriptor) := do
  let source ← (r.describeValue v).mapError fun f => ⟨.badType, f.message⟩
  let target ← (n.target source).mapError fun f => ⟨.badValue, f.message⟩
  return (target, source.extract.fields)

/-- The pairing of a class whose struct can be emitted. There is none for a class without retained
fields. -/
def Pairing.start (r : Registry) (n : Naming) (v : Value) : Except Fault (Option Pairing) := do
  let (target, fields) ← Pairing.fields r n v
  match (emit .standard standardTemplate target fields).mapError EmitFault.toFault, v with
  | .error f, _ => throw f
  | .ok (some _), .hint (.cls c) =>
    let m ← (StructModel.build target fields).mapError fun f => (EmitFault.model f).toFault
    return some { model := m, scope := ← Scope.load r m, source := c }
  | .ok _, _ => return none

end StructForge.Struct

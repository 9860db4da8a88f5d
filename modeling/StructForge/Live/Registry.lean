import StructForge.Live.Platform

/-! # Classes and modules

A registry holds the classes that a program defines and the modules in which they can be found.
Every class has the order in which it and its ancestors are searched, formed when it is defined. -/

namespace StructForge.Live

/-- A member of an enum. A member with the value of an earlier one is another name for that one. -/
structure Member where
  name : String
  value : Value
  stands : String
  deriving Repr

inductive ClassBody where
  | record (isDataclass : Bool) (hints : List (String × Hint))
  | enum (base : EnumBase) (members : List Member)
  deriving Repr

/-- What a hint of a dataclass makes of its name. -/
inductive FieldSort where
  | field
  | classVariable
  | initialiser
  deriving DecidableEq, Repr

def Hint.sort : Hint → FieldSort
  | .classVar _ | .anyClassVar => .classVariable
  | .initVar _ | .cls .initVar => .initialiser
  | _ => .field

/-- A defined class. The order lists the class itself, then its ancestors. A class that was itself
made a dataclass also keeps the names that it collected, with their sorts. -/
structure ClassInfo where
  label : Label
  order : List ClassRef
  body : ClassBody
  collected : Option (List (String × FieldSort))
  attributes : List (String × Value)
  deriving Repr

/-- A module with its attributes, in the order in which they were first set. -/
structure ModuleInfo where
  name : String
  attributes : List (String × Value)
  deriving Repr

/-- What an object of the program has: its attributes and, if it is a module, those of the module. -/
structure ObjectInfo where
  module? : Option String := none
  attributes : List (String × Value) := []
  deriving Repr

/-- The classes, modules, other objects and markers of a program, and the platform that it runs
on. -/
structure Registry where
  classes : List ClassInfo := []
  modules : List ModuleInfo := []
  objects : List ObjectInfo := []
  markers : List (ClassRef × Value) := []
  platform : Platform := {}

/-- Sets an entry of an association list; a new entry goes last. -/
def assign {α β : Type} [BEq α] (key : α) (value : β) : List (α × β) → List (α × β)
  | [] => [(key, value)]
  | (k, v) :: rest => if k == key then (k, value) :: rest else (k, v) :: assign key value rest

/-- Pairs with the later of two equal keys in the place of the earlier one. -/
def assignAll {α β : Type} [BEq α] (pairs : List (α × β)) : List (α × β) :=
  pairs.foldl (fun kept (k, v) => assign k v kept) []

def objectClass : ClassRef := .builtin "object"

namespace Registry

def info? (r : Registry) : ClassRef → Option ClassInfo
  | .defined index _ _ => r.classes[index]?
  | _ => none

def order (r : Registry) (c : ClassRef) : List ClassRef :=
  match c with
  | .defined .. => (r.info? c).elim [c, objectClass] (·.order)
  | .builtin "object" => [c]
  | .builtin "bool" => [c, .builtin "int", objectClass]
  | .enumBase .plain => [c, objectClass]
  | .enumBase .flag => [c, .enumBase .plain, objectClass]
  | .enumBase .int => [c, .builtin "int", .enumBase .plain, objectClass]
  | .enumBase .str => [c, .builtin "str", .enumBase .plain, objectClass]
  | .enumBase .intFlag => [c, .builtin "int", .enumBase .flag, .enumBase .plain, objectClass]
  | _ => [c, objectClass]

def ownHints (r : Registry) (c : ClassRef) : List (String × Hint) :=
  let number := Hint.cls (.builtin "float")
  match c with
  | .vector2 => [("x", number), ("y", number)]
  | .vector3 => [("x", number), ("y", number), ("z", number)]
  | c => match r.info? c with
    | some { body := .record _ hints, .. } => hints
    | _ => []

def ownCollected? (r : Registry) (c : ClassRef) : Option (List (String × FieldSort)) :=
  match c with
  | .vector2 | .vector3 => some ((r.ownHints c).map fun (name, h) => (name, h.sort))
  | c => (r.info? c).bind (·.collected)

/-- The names collected by the nearest dataclass among a class and its ancestors. -/
def collected? (r : Registry) (c : ClassRef) : Option (List (String × FieldSort)) :=
  (r.order c).findSome? r.ownCollected?

def members (r : Registry) (c : ClassRef) : List Member :=
  match r.info? c with
  | some { body := .enum _ members, .. } => members
  | _ => []

def isSingleBit (n : Nat) : Bool := n != 0 && n == Number.twoTo n.log2

/-- The values of the members that a walk over an enum class meets: those that stand for themselves,
and of a flag class only the single bits. -/
def iterated (r : Registry) (c : ClassRef) : List Member :=
  match r.info? c with
  | some { body := .enum base members, .. } =>
    members.filter fun m =>
      m.stands == m.name && (!base.isFlag || match m.value.numeric? with
        | some (.whole (.ofNat n)) => isSingleBit n
        | _ => false)
  | _ => []

def memberValue (c : ClassRef) (base : EnumBase) (m : Member) : Value :=
  .member c base m.name m.value

def member? (r : Registry) (c : ClassRef) (name : String) : Option Value := do
  let base ← c.enumBase?
  let found ← (r.members c).find? (·.name == name)
  let own ← (r.members c).find? (·.name == found.stands)
  return memberValue c base own

def module? (r : Registry) (name : String) : Option ModuleInfo :=
  r.modules.find? (·.name == name)

def object? (r : Registry) (o : ObjectRef) : Option ObjectInfo :=
  o.index.bind fun i => r.objects[i]?

def moduleOf? (r : Registry) : Value → Option String
  | .hint (.object o) => (r.object? o).bind (·.module?)
  | _ => none

/-- The attributes of a module; a module that does not exist has none. -/
def moduleAttributes (r : Registry) (module : String) : List (String × Value) :=
  (r.module? module).elim [] (·.attributes)

/-- An attribute of a value: a member or a nested definition of a class, what an object has, or an
attribute of a module. -/
def attribute? (r : Registry) (v : Value) (name : String) : Option Value :=
  match v with
  | .hint (.cls c) =>
    r.member? c name <|> (r.order c).findSome? fun a =>
      (r.info? a).bind fun info => info.attributes.lookup name
  | .hint (.object o) =>
    (r.object? o).bind fun info =>
      info.attributes.lookup name <|>
        info.module?.bind fun module => (r.moduleAttributes module).lookup name
  | _ => none

def find? (r : Registry) (module : String) (names : List String) : Option Value :=
  match names with
  | [] => none
  | name :: rest => do
    let m ← r.module? module
    let v ← m.attributes.lookup name
    rest.foldlM (fun v name => r.attribute? v name) v

/-- What a dotted place leads to: the longest module name that begins it, then attributes. -/
def place? (r : Registry) (parts : List String) : Option Value :=
  (List.range parts.length).reverse.findSome? fun n =>
    r.find? (".".intercalate (parts.take n)) (parts.drop n)

def marker? (r : Registry) (c : ClassRef) : Option Value := r.markers.lookup c

def mark (r : Registry) (c : ClassRef) (v : Value) : Registry :=
  { r with markers := assign c v r.markers }

def addModule (r : Registry) (name : String) : Registry :=
  if (r.module? name).isSome then r else { r with modules := r.modules ++ [⟨name, []⟩] }

def setModuleAttribute (r : Registry) (module name : String) (v : Value) : Registry :=
  { r with modules := r.modules.map fun m =>
      if m.name == module then { m with attributes := assign name v m.attributes } else m }

def setClassAttribute (r : Registry) (index : Nat) (name : String) (v : Value) : Registry :=
  { r with classes := r.classes.modify index fun c =>
      { c with attributes := assign name v c.attributes } }

/-- Stores a value at a chain of names in a module. Nothing is stored if the owner does not exist or
cannot hold it. -/
def store (r : Registry) (module : String) (names : List String) (v : Value) : Registry :=
  match names.getLast?, names.dropLast with
  | none, _ => r
  | some name, [] => r.setModuleAttribute module name v
  | some name, owner =>
    match r.find? module owner with
    | some (.hint (.cls (.defined index ..))) => r.setClassAttribute index name v
    | _ => r

end Registry

/-- Joins orders of ancestors so that each one is kept and no class comes before its descendants;
the fuel bounds the number of classes. -/
def mergeOrders : Nat → List (List ClassRef) → Option (List ClassRef)
  | 0, orders => if orders.all List.isEmpty then some [] else none
  | fuel + 1, orders =>
    let orders := orders.filter (!·.isEmpty)
    if orders.isEmpty then some []
    else do
      let next ← orders.findSome? fun order => do
        let c ← order.head?
        if orders.any (·.tail.contains c) then none else some c
      let rest ← mergeOrders fuel (orders.map fun o => if o.head? == some next then o.tail else o)
      return next :: rest

namespace Registry

def orderOf (r : Registry) (c : ClassRef) (bases : List ClassRef) : Except Fault (List ClassRef) :=
  let bases := if bases.isEmpty then [objectClass] else bases
  let orders := bases.map r.order ++ [bases]
  match mergeOrders (orders.flatten.length + 1) orders with
  | some rest => .ok (c :: rest)
  | none =>
    let names := ", ".intercalate (bases.map (·.name))
    .error ⟨.badType,
      s!"Cannot create a consistent method resolution\norder (MRO) for bases {names}"⟩

/-- The sort of a hint that a class of a module declares. A text has the sort of what its first word
stands for in the module; after the name of a library module, that of the library's own hint. -/
def sortIn (r : Registry) (module : String) (h : Hint) : FieldSort :=
  let attributes := r.moduleAttributes module
  match h with
  | .constant (.text text) =>
    match r.platform.evaluator.leading text with
    | some (none, word) =>
      match attributes.lookup word with
      | some (.hint h) => h.sort
      | _ => .field
    | some (some owner, word) =>
      match (attributes.lookup owner).bind r.moduleOf?, word with
      | some "typing", "ClassVar" => .classVariable
      | some "dataclasses", "InitVar" => .initialiser
      | _, _ => .field
    | none => .field
  | h => h.sort

/-- The names that a new dataclass of a module collects: for each ancestor, the most distant first,
those of its nearest dataclass, and then its own. A name met again keeps its place and takes the
newer sort. -/
def collect (r : Registry) (module : String) (ancestors : List ClassRef)
    (hints : List (String × Hint)) : List (String × FieldSort) :=
  let inherited := ancestors.reverse.flatMap fun a => (r.collected? a).getD []
  assignAll (inherited ++ hints.map fun (name, h) => (name, r.sortIn module h))

/-- Defines a class; its reference is returned with the new registry. A dataclass cannot extend the
vectors, which are frozen. -/
def define (r : Registry) (label : Label) (bases : List ClassRef) (body : ClassBody) :
    Except Fault (ClassRef × Registry) := do
  let enum := match body with
    | .enum base _ => some base
    | .record .. => none
  let c := ClassRef.defined r.classes.length label enum
  let order ← r.orderOf c bases
  let collected ← match body with
    | .record true hints =>
      if order.contains .vector2 || order.contains .vector3 then
        throw ⟨.badType, "cannot inherit non-frozen dataclass from a frozen one"⟩
      else pure (some (r.collect label.module order.tail hints))
    | _ => pure none
  return (c, { r with classes := r.classes ++ [⟨label, order, body, collected, []⟩] })

end Registry

def wholeOfParts (toInt : Value → Except Fault Int) : List Value → Except Fault Int
  | [] => .ok 0
  | [v] => toInt v
  | [_, _] => .error ⟨.badType, "int() can't convert non-string with explicit base"⟩
  | parts =>
    .error ⟨.badType, s!"int expected at most 2 arguments, got {parts.length}"⟩

def textOfParts : List Value → Except Fault String
  | [] => .ok ""
  | [.text s] => .ok s
  | [v] => .error ⟨.badType, s!"{v.shown} is not a string"⟩
  | [_, .text _, .text _] | [_, .text _] => .error ⟨.badType, "decoding str is not supported"⟩
  | [_, .text _, v] => .error ⟨.badType, s!"errors must be a string, not {v.shown}"⟩
  | [_, v] | [_, v, _] => .error ⟨.badType, s!"encoding must be a string, not {v.shown}"⟩
  | parts => .error ⟨.badType, s!"too many arguments for str(): {(Value.tuple parts).shown}"⟩

/-- The value that an enum class keeps for a declared one: classes of numbers keep whole numbers and
classes of texts keep texts. The items of a tuple are the parts of such a value. -/
def EnumBase.keep (base : EnumBase) (v : Value) (toInt : Value → Except Fault Int) :
    Except Fault Value :=
  let parts := match v with
    | .tuple items => items
    | v => [v]
  match base with
  | .int | .intFlag => return .int (← wholeOfParts toInt parts)
  | .str => return .text (← textOfParts parts)
  | _ => return v

/-- The members of an enum class with the given names and kept values. -/
def membersOf (pairs : List (String × Value)) : List Member :=
  pairs.foldl (fun ms (name, v) =>
    match ms.find? (·.value.equals v) with
    | some m => ms ++ [⟨name, v, m.stands⟩]
    | none => ms ++ [⟨name, v, name⟩]) []

/-- What is said of a number of the numeric library that has no bits. -/
def bitlessText (operation : String) : String :=
  s!"ufunc '{operation}' not supported for the input types, and the inputs could not be safely " ++
    "coerced to any supported types according to the casting rule ''safe''"

/-- The failure of asking whether a value has a single bit, which is asked of every value but
zero. -/
def bitFault? (v : Value) : Option Fault :=
  match v.numeric? with
  | some (.whole _) => none
  | some (.real x) =>
    if x.isZero then none
    else match v with
      | .number .. => some ⟨.badType, bitlessText "bitwise_and"⟩
      | v => some ⟨.badType,
          s!"unsupported operand type(s) for &=: '{v.typeName}' and '{v.typeName}'"⟩
  | none => some ⟨.badType, s!"unsupported operand type(s) for -: '{v.typeName}' and 'int'"⟩

/-- The failure of adding the bits of a value to those of a class. -/
def maskFault? (v : Value) : Option Fault :=
  match v with
  | .float _ => some ⟨.badType, s!"unsupported operand type(s) for |=: 'int' and 'float'"⟩
  | .number _ (.float _) => some ⟨.badType, bitlessText "bitwise_or"⟩
  | _ => none

def flagFault? (members : List Member) : Option Fault :=
  let own := (members.filter fun m => m.stands == m.name).map (·.value)
  own.findSome? bitFault? <|> own.findSome? maskFault?

/-- The members of an enum class that is made. A class of flags is made of values with bits only. -/
def EnumBase.makeMembers (base : EnumBase) (pairs : List (String × Value)) :
    Except Fault (List Member) :=
  match base, flagFault? (membersOf pairs) with
  | .flag, some f => .error f
  | _, _ => .ok (membersOf pairs)

end StructForge.Live

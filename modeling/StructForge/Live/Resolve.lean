import StructForge.Live.Registry

/-! # Resolving hints

Texts inside the hints of a class are expressions, whose names are looked up in the module of the
class, then in the class itself, then among the built-in names. The resolved hints of a class start with those of its most
distant ancestor; a name that is declared again keeps its place and takes the newer hint. -/

namespace StructForge.Live

open Text

def builtinClasses : List String :=
  ["int", "float", "bool", "str", "bytes", "object", "complex", "list", "dict", "tuple", "set",
    "frozenset", "type", "bytearray", "range", "slice", "memoryview", "property", "staticmethod",
    "classmethod", "super", "enumerate", "filter", "map", "zip", "reversed", "BaseException",
    "Exception", "ValueError", "TypeError", "KeyError", "IndexError", "RuntimeError",
    "AttributeError", "OSError", "ImportError", "StopIteration"]

/-- Where the names of a hint are looked up. -/
structure Scope where
  registry : Registry
  attributes : List (List (String × Value))

namespace Scope

def ofClass (r : Registry) (c : ClassRef) : Scope :=
  ⟨r, [r.moduleAttributes c.label.module, (r.info? c).elim [] (·.attributes)]⟩

def find? (s : Scope) (name : String) : Option Value :=
  s.attributes.findSome? (·.lookup name) <|>
    if builtinClasses.contains name then some (.hint (.cls (.builtin name))) else none

def lookups (s : Scope) : Lookups := ⟨s.find?, s.registry.attribute?⟩

def evaluate (s : Scope) (text : String) : Except String Value :=
  s.registry.platform.evaluator.value s.lookups text

end Scope

/-- The hint that the value of a text is. Some hints stand for no types and are allowed only in the
place of a whole hint or under notes. -/
def Value.checkedHint (whole : Bool) (v : Value) : Except String Hint :=
  match v with
  | .tuple _ =>
    .error s!"Forward references must evaluate to types. Got {v.shown.take 100}."
  | v =>
    match whole, v.asHint.argument with
    | true, .form f =>
      if f = .final then .ok (.form f)
      else .error s!"Plain {(Hint.form f).itemText} is not valid as type argument"
    | true, h => .ok h
    | false, _ => v.asHint.checkArgument.mapError (·.message)

mutual

/-- A hint with its forward references looked up, each of them as a whole hint or as an argument. -/
def Hint.resolveWith (look : Bool → String → Except String Hint) : Hint → Except String Hint
  | .forward text => look false text
  | .generic o args => do return .generic o (← resolveArguments look args)
  | .capitalGeneric o args => do return .capitalGeneric o (← resolveAll look args)
  | .union hs => do return Hint.unionOf (← resolveAll look hs)
  | .alternatives hs => do return Hint.alternativesOf (← resolveAll look hs)
  | .classVar h => do return .classVar (← h.resolveWith look)
  | .final h => do return .final (← h.resolveWith look)
  | .annotated (.forward text) notes => do
    let h ← look true text
    match h.noteFault? with
    | some f => throw f.message
    | none => return .annotated h notes
  | .annotated h notes => do return .annotated (← h.resolveWith look) notes
  | h => .ok h

def resolveAll (look : Bool → String → Except String Hint) : List Hint → Except String (List Hint)
  | [] => .ok []
  | h :: hs => do
    let first ← h.resolveWith look
    return first :: (← resolveAll look hs)

/-- Arguments of a built-in generic: texts among them are forward references too. -/
def resolveArguments (look : Bool → String → Except String Hint) :
    List Hint → Except String (List Hint)
  | [] => .ok []
  | h :: hs => do
    let first ← match h with
      | .constant (.text text) => look false text
      | h => h.resolveWith look
    return first :: (← resolveArguments look hs)

end

/-- The hint that a text stands for, with the texts that it leads to looked up in turn; one of those
on the way to it stays as it is. The fuel bounds how many there are on the way. -/
def follow (s : Scope) : Nat → List String → Bool → String → Except String Hint
  | 0, _, _, _ => .error "maximum recursion depth exceeded"
  | fuel + 1, met, whole, text =>
    if met.contains text then .ok (.forward text)
    else do
      let v ← s.evaluate text
      let h ← v.checkedHint whole
      match v with
      | .text next => follow s fuel (text :: met) whole next
      | _ => h.resolveWith (follow s fuel (text :: met))

def Scope.look (s : Scope) (whole : Bool) (text : String) : Except String Hint :=
  follow s s.registry.platform.depth [] whole text

/-- The resolved form of a declared hint: a text is a forward reference, the absent value is its
type, and notes are left out. -/
def Hint.declared (s : Scope) (h : Hint) : Except String Hint := do
  let resolved ← match h with
    | .constant (.text text) => s.look true text
    | h => h.argument.resolveWith s.look
  return Hint.strip resolved

namespace Registry

def resolvedOwn (r : Registry) (c : ClassRef) : Except String (List (String × Hint)) :=
  (r.ownHints c).mapM fun (name, h) => do return (name, ← h.declared (.ofClass r c))

def resolvedHints (r : Registry) (c : ClassRef) : Except String (List (String × Hint)) := do
  let layers ← (r.order c).reverse.mapM r.resolvedOwn
  return assignAll layers.flatten

end Registry

end StructForge.Live

import StructForge.Fault
import StructForge.Template.Syntax
import StructForge.Text.Quoted

/-! # Rendering templates -/

namespace StructForge.Template

namespace Value

mutual

def shown : Value → String
  | .text s => Text.quoted s
  | .number n => toString n
  | .flag b => if b then "True" else "False"
  | .tuple [] => "()"
  | .tuple [v] => s!"({v.shown},)"
  | .tuple (v :: w :: vs) =>
    let inner := ", ".intercalate (v.shown :: w.shown :: allShown vs)
    s!"({inner})"
  | .record type fields =>
    let short := String.ofList (type.toList.reverse.takeWhile (· != '.')).reverse
    let inner := ", ".intercalate (fieldsShown fields)
    s!"{short}({inner})"
  | .missing _ => "Undefined"

def allShown : List Value → List String
  | [] => []
  | v :: vs => v.shown :: allShown vs

def fieldsShown : List (String × Value) → List String
  | [] => []
  | (name, v) :: fields => (name ++ "=" ++ v.shown) :: fieldsShown fields

end

def printed : Value → String
  | .text s => s
  | .missing _ => ""
  | v => v.shown

def isTrue : Value → Bool
  | .text s => !s.isEmpty
  | .number n => n != 0
  | .flag b => b
  | .tuple items => !items.isEmpty
  | .record .. => true
  | .missing _ => false

def typeName : Value → String
  | .text _ => "str object"
  | .number _ => "int object"
  | .flag _ => "bool object"
  | .tuple _ => "tuple object"
  | .record type _ => s!"{type} object"
  | .missing _ => "Undefined"

def member (v : Value) (name : String) : Except Fault Value :=
  let absent : Value := .missing s!"{Text.quoted v.typeName} has no attribute {Text.quoted name}"
  match v with
  | .missing reason => .error ⟨.undefinedName, reason⟩
  | .record _ fields => .ok ((fields.lookup name).getD absent)
  | _ => .ok absent

def item (v index : Value) : Except Fault Value :=
  match v, index with
  | .missing reason, _ => .error ⟨.undefinedName, reason⟩
  | .tuple items, .number n => .ok (items[n]?.getD (.missing s!"tuple object has no element {n}"))
  | v, .text name => v.member name
  | v, _ => .ok (.missing s!"{v.typeName} has no such element")

def items (v : Value) : Except Fault (List Value) :=
  match v with
  | .tuple items => .ok items
  | .text s => .ok (s.toList.map fun c => .text (String.singleton c))
  | .missing _ => .ok []
  | v => .error ⟨.badType, s!"{Text.quoted v.typeName} is not iterable"⟩

def equals : Value → Value → Bool
  | .text a, .text b => a == b
  | .number a, .number b => a == b
  | .flag a, .flag b => a == b
  | a, b => a.shown == b.shown

def filter (v : Value) (name : String) : Except Fault Value :=
  match name with
  | "length" | "count" => do
    match v with
    | .record .. | .number _ | .flag _ =>
      .error ⟨.badType, s!"object of type {Text.quoted v.typeName} has no len()"⟩
    | _ => return .number (← v.items).length
  | "join" => do return .text (String.join ((← v.items).map printed))
  | "string" => .ok (.text v.printed)
  | "first" => do return (← v.items).headD (.missing "No first item, sequence was empty.")
  | "last" => do return (← v.items).getLastD (.missing "No last item, sequence was empty.")
  | "list" => do return .tuple (← v.items)
  | _ => .error ⟨.templateForm, s!"No filter named {Text.quoted name}."⟩

def filterWith (v : Value) (name : String) (argument : Value) : Except Fault Value :=
  match name with
  | "join" => do return .text (argument.printed.intercalate ((← v.items).map printed))
  | "default" => .ok (match v with
    | .missing _ => argument
    | v => v)
  | _ => v.filter name

end Value

/-- The names in scope, the innermost first. -/
abbrev Scope := List (String × Value)

def Expr.eval (scope : Scope) : Expr → Except Fault Value
  | .name s => .ok ((scope.lookup s).getD (.missing s!"{Text.quoted s} is undefined"))
  | .text s => .ok (.text s)
  | .number n => .ok (.number n)
  | .flag b => .ok (.flag b)
  | .attribute e field => do (← e.eval scope).member field
  | .item e index => do (← e.eval scope).item (← index.eval scope)
  | .filter e which => do (← e.eval scope).filter which
  | .filterWith e which argument => do
    (← e.eval scope).filterWith which (← argument.eval scope)
  | .negation e => do return .flag !(← e.eval scope).isTrue
  | .equal a b => do return .flag ((← a.eval scope).equals (← b.eval scope))
  | .both a b => do
    let v ← a.eval scope
    if v.isTrue then b.eval scope else return v
  | .either a b => do
    let v ← a.eval scope
    if v.isTrue then return v else b.eval scope

def bindItem (names : List String) (v : Value) : Except Fault Scope :=
  match names with
  | [name] => .ok [(name, v)]
  | names => do
    let parts ← v.items
    if parts.length = names.length then return names.zip parts
    else if parts.length < names.length then
      .error ⟨.badValue,
        s!"not enough values to unpack (expected {names.length}, got {parts.length})"⟩
    else .error ⟨.badValue, s!"too many values to unpack (expected {names.length})"⟩

/-- What a repetition tells its body about the place of an item. -/
def placeOf (index count : Nat) : Value :=
  .record "loop"
    [("index", .number (index + 1)), ("index0", .number index), ("length", .number count),
      ("first", .flag (index == 0)), ("last", .flag (index + 1 == count))]

mutual

def Node.render (scope : Scope) : Node → Except Fault String
  | .text s => .ok s
  | .print e => do return (← e.eval scope).printed
  | .choice condition yes no => do
    if (← condition.eval scope).isTrue then renderAll scope yes else renderAll scope no
  | .repetition names items body empty => do
    let values ← (← items.eval scope).items
    if values.isEmpty then renderAll scope empty
    else
      let texts ← values.zipIdx.mapM fun (v, index) => do
        let bound ← bindItem names v
        renderAll (("loop", placeOf index values.length) :: bound ++ scope) body
      return String.join texts

def renderAll (scope : Scope) : List Node → Except Fault String
  | [] => .ok ""
  | node :: nodes => do
    let first ← node.render scope
    return first ++ (← renderAll scope nodes)

end

end StructForge.Template

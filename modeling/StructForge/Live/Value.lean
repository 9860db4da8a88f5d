import StructForge.Live.Hint
import StructForge.Number.Text

/-! # Values

The values that fields, containers and modules hold. Values have a written form, a truth value and
an equality that compares numbers of every kind by their exact value. -/

namespace StructForge.Live

open Number

/-- Values. A number of fixed width carries its kind. A member of an enum carries its class, the
base of its class, its name and its value. A `single` is a vector of single-precision numbers. An
`object` is one of a class that the program defines, with its fields. -/
inductive Value where
  | none
  | bool (b : Bool)
  | int (i : Int)
  | float (x : Binary)
  | number (kind : Kind) (x : Scalar)
  | text (s : String)
  | member (cls : ClassRef) (base : EnumBase) (name : String) (value : Value)
  | list (items : List Value)
  | tuple (items : List Value)
  | dict (entries : List (Value × Value))
  | vector2 (x y : Value)
  | vector3 (x y z : Value)
  | single (components : List Binary)
  | object (cls : ClassRef) (fields : List (String × Value))
  | hint (h : Hint)
  deriving Repr

instance : Inhabited Value := ⟨.none⟩

namespace Value

def singleClass (components : List Binary) : ClassRef :=
  if components.length = 3 then .float3 else .float2

def typeName : Value → String
  | .none => "NoneType"
  | .bool _ => "bool"
  | .int _ => "int"
  | .float _ => "float"
  | .number kind _ => "numpy." ++ kind.name
  | .text _ => "str"
  | .member cls .. => cls.name
  | .list _ => "list"
  | .tuple _ => "tuple"
  | .dict _ => "dict"
  | .vector2 .. => "Vector2"
  | .vector3 .. => "Vector3"
  | .single components => (singleClass components).name
  | .object cls _ => cls.name
  | .hint (.cls .anything) => "_AnyMeta"
  | .hint (.cls c) => if c.enumBase?.isSome then "EnumType" else "type"
  | .hint (.generic ..) => "types.GenericAlias"
  | .hint (.alternatives _) => "types.UnionType"
  | .hint (.constant c) => c.typeName
  | .hint (.object o) => o.typeName
  | .hint (.form _) | .hint .anyClassVar => "_SpecialForm"
  | .hint (.union _) => "_UnionGenericAlias"
  | .hint (.typeVar _) => "TypeVar"
  | .hint (.forward _) => "ForwardRef"
  | .hint (.initVar _) => "InitVar"
  | .hint _ => "_GenericAlias"

/-- The written form of a number of fixed width on its own. -/
def scalarText (kind : Kind) : Scalar → String
  | .bool b => if b then "True" else "False"
  | .int i => toString i
  | .float x => x.text (kind.format?.getD .double)

def hintShown : Hint → String
  | .cls c =>
    match c.enumBase? with
    | some base => if base.isFlag then s!"<flag '{c.name}'>" else s!"<enum '{c.name}'>"
    | .none => s!"<class '{c.place}'>"
  | h => h.itemText

mutual

def shown : Value → String
  | .none => "None"
  | .bool b => if b then "True" else "False"
  | .int i => toString i
  | .float x => x.text .double
  | .number kind x =>
    match kind, x with
    | .bool, .bool true => "np.True_"
    | .bool, .bool false => "np.False_"
    | kind, x => s!"np.{kind.name}({scalarText kind x})"
  | .text s => Text.quoted s
  | .member cls _ name value => "<" ++ cls.name ++ "." ++ name ++ ": " ++ value.shown ++ ">"
  | .list items =>
    let inner := ", ".intercalate (allShown items)
    s!"[{inner}]"
  | .tuple [item] => "(" ++ item.shown ++ ",)"
  | .tuple items =>
    let inner := ", ".intercalate (allShown items)
    s!"({inner})"
  | .dict entries =>
    let inner := ", ".intercalate (entriesShown entries)
    "\x7b" ++ inner ++ "\x7d"
  | .vector2 x y => "Vector2(x=" ++ x.shown ++ ", y=" ++ y.shown ++ ")"
  | .vector3 x y z => "Vector3(x=" ++ x.shown ++ ", y=" ++ y.shown ++ ", z=" ++ z.shown ++ ")"
  | .single components =>
    let inner := ", ".intercalate (components.map (Binary.text .double))
    s!"{(singleClass components).name}({inner})"
  | .object cls fields =>
    let inner := ", ".intercalate (fieldsShown fields)
    s!"{cls.label.qualname}({inner})"
  | .hint h => hintShown h

def allShown : List Value → List String
  | [] => []
  | v :: vs => v.shown :: allShown vs

def entriesShown : List (Value × Value) → List String
  | [] => []
  | (k, v) :: vs => (k.shown ++ ": " ++ v.shown) :: entriesShown vs

def fieldsShown : List (String × Value) → List String
  | [] => []
  | (name, v) :: vs => (name ++ "=" ++ v.shown) :: fieldsShown vs

end

def display : Value → String
  | .text s => s
  | .number kind x => scalarText kind x
  | .member cls base name value =>
    match base, value with
    | .plain, _ | .flag, _ => cls.name ++ "." ++ name
    | .str, .text s => s
    | _, value => value.shown
  | .hint h => if h.itemText == h.text then hintShown h else h.text
  | v => v.shown

def scalarIsTrue : Scalar → Bool
  | .bool b => b
  | .int i => i != 0
  | .float x => !x.isZero

def isTrue : Value → Bool
  | .none => false
  | .bool b => b
  | .int i => i != 0
  | .float x => !x.isZero
  | .number _ x => scalarIsTrue x
  | .text s => !s.isEmpty
  | .member _ base _ value => if base == .plain then true else value.isTrue
  | .list items => !items.isEmpty
  | .tuple items => !items.isEmpty
  | .dict entries => !entries.isEmpty
  | .hint (.constant c) => c.isTrue
  | _ => true

/-- A number as an exact value: a whole number, or a floating-point one. -/
inductive Exact where
  | whole (i : Int)
  | real (x : Binary)
  deriving DecidableEq, Repr

def scalarExact : Scalar → Exact
  | .bool b => .whole (Scalar.ofBool b)
  | .int i => .whole i
  | .float x => .real x

def numeric? : Value → Option Exact
  | .bool b => some (.whole (Scalar.ofBool b))
  | .int i => some (.whole i)
  | .float x => some (.real x)
  | .number _ x => some (scalarExact x)
  | .member _ base _ value => if base.isInt then value.numeric? else .none
  | _ => .none

def Exact.equals : Exact → Exact → Bool
  | .whole i, .whole j => i == j
  | .real x, .real y => x.equals y
  | .whole i, .real x => x.toInt? == some i
  | .real x, .whole i => x.toInt? == some i

def text? : Value → Option String
  | .text s => some s
  | .member _ .str _ value => value.text?
  | _ => .none

mutual

/-- Equality of values. Numbers are equal when their exact values are; a member of an enum that
extends numbers or texts equals its value, another member equals itself only; a vector of
single-precision numbers equals the tuple of its components; an object equals those of its class with
equal fields. -/
def equals : Value → Value → Bool
  | .list xs, .list ys => allEqual xs ys
  | .tuple xs, .tuple ys => allEqual xs ys
  | .vector2 x y, .vector2 x' y' => x.equals x' && y.equals y'
  | .vector3 x y z, .vector3 x' y' z' => x.equals x' && y.equals y' && z.equals z'
  | .dict xs, .dict ys => xs.length == ys.length && entriesIn xs ys
  | .single xs, .single ys =>
    xs.length == ys.length && (xs.zip ys).all fun (x, y) => x.equals y
  | .single xs, .tuple ys => singleEqual xs ys
  | .tuple xs, .single ys => equalsSingle xs ys
  | .object c xs, .object c' ys => c == c' && fieldsEqual xs ys
  | .none, .none => true
  | .hint h, .hint h' => h == h'
  | .member cls base name value, w =>
    match w with
    | .member cls' base' name' value' =>
      if base == .plain || base == .flag || base' == .plain || base' == .flag then
        cls == cls' && name == name'
      else value.equals value'
    | w => if base == .plain || base == .flag then false else value.equals w
  | v, .member _ base _ value =>
    if base == .plain || base == .flag then false
    else match v.numeric?, value.numeric?, v.text?, value.text? with
      | some a, some b, _, _ => a.equals b
      | _, _, some s, some t => s == t
      | _, _, _, _ => false
  | v, w =>
    match v.numeric?, w.numeric?, v.text?, w.text? with
    | some a, some b, _, _ => a.equals b
    | _, _, some s, some t => s == t
    | _, _, _, _ => false
termination_by structural v => v

def allEqual : List Value → List Value → Bool
  | [], [] => true
  | x :: xs, y :: ys => x.equals y && allEqual xs ys
  | _, _ => false

def entriesIn : List (Value × Value) → List (Value × Value) → Bool
  | [], _ => true
  | (k, v) :: xs, ys => ys.any (fun (k', v') => k.equals k' && v.equals v') && entriesIn xs ys

def fieldsEqual : List (String × Value) → List (String × Value) → Bool
  | [], [] => true
  | (_, x) :: xs, (_, y) :: ys => x.equals y && fieldsEqual xs ys
  | _, _ => false

def singleEqual : List Binary → List Value → Bool
  | [], [] => true
  | x :: xs, y :: ys =>
    (match y.numeric? with
    | some b => (Exact.real x).equals b
    | .none => false) && singleEqual xs ys
  | _, _ => false

def equalsSingle : List Value → List Binary → Bool
  | [], [] => true
  | x :: xs, y :: ys =>
    (match x.numeric? with
    | some b => b.equals (.real y)
    | .none => false) && equalsSingle xs ys
  | _, _ => false

end

mutual

/-- The type name of a part that keeps a value from being a key, if there is one. -/
def unhashable? : Value → Option String
  | .list _ => some "list"
  | .dict _ => some "dict"
  | .tuple items => anyUnhashable? items
  | .vector2 x y => x.unhashable? <|> y.unhashable?
  | .vector3 x y z => x.unhashable? <|> y.unhashable? <|> z.unhashable?
  | .object cls _ => some cls.name
  | .hint (.constant (.list _)) => some "list"
  | .hint (.constant (.dict _)) => some "dict"
  | _ => .none

/-- The first part of several values that keeps one from being a key. -/
def anyUnhashable? : List Value → Option String
  | [] => .none
  | v :: vs => v.unhashable? <|> anyUnhashable? vs

end

end Value

end StructForge.Live

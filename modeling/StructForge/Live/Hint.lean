import StructForge.Number.Kind
import StructForge.Text.Quoted

/-! # Hints

A hint is what a field is declared as, before it is described: a class, a generic with arguments, a
union, a qualifier, a name to be looked up later, or some other object. Each hint has a text. -/

namespace StructForge.Live

/-- Constants that stand inside hints. -/
inductive Constant where
  | none
  | bool (b : Bool)
  | int (i : Int)
  | text (s : String)
  | list (items : List Constant)
  | dict (entries : List (String × Constant))
  deriving Repr

instance : Inhabited Constant := ⟨.none⟩

namespace Constant

mutual

def shown : Constant → String
  | .none => "None"
  | .bool b => if b then "True" else "False"
  | .int i => toString i
  | .text s => Text.quoted s
  | .list items =>
    let inner := ", ".intercalate (allShown items)
    s!"[{inner}]"
  | .dict entries =>
    let inner := ", ".intercalate (entriesShown entries)
    "\x7b" ++ inner ++ "\x7d"

def allShown : List Constant → List String
  | [] => []
  | c :: cs => c.shown :: allShown cs

def entriesShown : List (String × Constant) → List String
  | [] => []
  | (k, c) :: cs => (Text.quoted k ++ ": " ++ c.shown) :: entriesShown cs

end

mutual

def equals : Constant → Constant → Bool
  | .none, .none => true
  | .bool b, .bool b' => b == b'
  | .int i, .int j => i == j
  | .text s, .text t => s == t
  | .list xs, .list ys => allEqual xs ys
  | .dict xs, .dict ys => entriesEqual xs ys
  | _, _ => false
termination_by structural c => c

def allEqual : List Constant → List Constant → Bool
  | [], [] => true
  | x :: xs, y :: ys => x.equals y && allEqual xs ys
  | _, _ => false

/-- Equality of the entries of two dictionaries, in order. -/
def entriesEqual : List (String × Constant) → List (String × Constant) → Bool
  | [], [] => true
  | (k, x) :: xs, (l, y) :: ys => k == l && x.equals y && entriesEqual xs ys
  | _, _ => false

end

instance : BEq Constant := ⟨equals⟩

def typeName : Constant → String
  | .none => "NoneType"
  | .bool _ => "bool"
  | .int _ => "int"
  | .text _ => "str"
  | .list _ => "list"
  | .dict _ => "dict"

def isTrue : Constant → Bool
  | .none => false
  | .bool b => b
  | .int i => i != 0
  | .text s => !s.isEmpty
  | .list items => !items.isEmpty
  | .dict entries => !entries.isEmpty

def display : Constant → String
  | .text s => s
  | c => c.shown

end Constant

inductive EnumBase where
  | plain
  | int
  | str
  | flag
  | intFlag
  deriving DecidableEq, Repr

namespace EnumBase

def all : List EnumBase := [.plain, .int, .str, .flag, .intFlag]

def name : EnumBase → String
  | .plain => "Enum"
  | .int => "IntEnum"
  | .str => "StrEnum"
  | .flag => "Flag"
  | .intFlag => "IntFlag"

def ofName? (s : String) : Option EnumBase := all.find? (·.name == s)

def isFlag : EnumBase → Bool
  | .flag | .intFlag => true
  | _ => false

def isInt : EnumBase → Bool
  | .int | .intFlag => true
  | _ => false

end EnumBase

/-- Where a class is found, and its short name. -/
structure Label where
  name : String
  module : String
  qualname : String
  deriving DecidableEq, Repr, Inhabited

/-- A class: one that every program has, or one that the program at hand defines. -/
inductive ClassRef where
  | builtin (name : String)
  | number (kind : Number.Kind)
  | numeric (name : String)
  | vector2
  | vector3
  | float2
  | float3
  | array
  | map
  | enumBase (base : EnumBase)
  | anything
  | annotated
  | initVar
  | defined (index : Nat) (label : Label) (enum : Option EnumBase)
  deriving DecidableEq, Repr

namespace ClassRef

def label : ClassRef → Label
  | .builtin name => ⟨name, "builtins", name⟩
  | .number kind => ⟨kind.name, "numpy", kind.name⟩
  | .numeric name => ⟨name, "numpy", name⟩
  | .vector2 => ⟨"Vector2", "nativegen.mathtypes", "Vector2"⟩
  | .vector3 => ⟨"Vector3", "nativegen.mathtypes", "Vector3"⟩
  | .float2 => ⟨"float2", "nativegen.runtime", "float2"⟩
  | .float3 => ⟨"float3", "nativegen.runtime", "float3"⟩
  | .array => ⟨"NativeArray", "nativegen.runtime", "NativeArray"⟩
  | .map => ⟨"NativeHashMap", "nativegen.runtime", "NativeHashMap"⟩
  | .enumBase base => ⟨base.name, "enum", base.name⟩
  | .anything => ⟨"Any", "typing", "Any"⟩
  | .annotated => ⟨"Annotated", "typing", "Annotated"⟩
  | .initVar => ⟨"InitVar", "dataclasses", "InitVar"⟩
  | .defined _ label _ => label

def name (c : ClassRef) : String := c.label.name

def enumBase? : ClassRef → Option EnumBase
  | .enumBase base => some base
  | .defined _ _ enum => enum
  | _ => none

def noneType : ClassRef := .builtin "NoneType"

/-- How a class is written inside a hint: built-in classes without their module. -/
def place (c : ClassRef) : String :=
  let l := c.label
  if l.module = "builtins" then l.qualname else l.module ++ "." ++ l.qualname

end ClassRef

/-- The containers that generics are made of. -/
inductive Origin where
  | list
  | dict
  | tuple
  | set
  | frozenset
  deriving DecidableEq, Repr

namespace Origin

def name : Origin → String
  | .list => "list"
  | .dict => "dict"
  | .tuple => "tuple"
  | .set => "set"
  | .frozenset => "frozenset"

def capital : Origin → String
  | .list => "List"
  | .dict => "Dict"
  | .tuple => "Tuple"
  | .set => "Set"
  | .frozenset => "FrozenSet"

end Origin

/-- Names of the library that stand for no type until they are given arguments. -/
inductive Form where
  | union
  | optional
  | literal
  | final
  deriving DecidableEq, Repr

def Form.name : Form → String
  | .union => "Union"
  | .optional => "Optional"
  | .literal => "Literal"
  | .final => "Final"

/-- An object that is no hint of the library and no class: what its type is called, how it is written
inside other hints, and how it is written alone. Objects of the program are told apart by their
index; others are what they look like. -/
structure ObjectRef where
  index : Option Nat
  typeName : String
  shown : String
  display : String
  deriving DecidableEq, Repr

/-- Hints. A generic is spelled with the name of the built-in container or with its capitalised
twin. An expression to be evaluated later is a forward reference. -/
inductive Hint where
  | cls (c : ClassRef)
  | capital (o : Origin)
  | anyClassVar
  | generic (o : Origin) (args : List Hint)
  | capitalGeneric (o : Origin) (args : List Hint)
  | union (members : List Hint)
  | alternatives (members : List Hint)
  | classVar (h : Hint)
  | final (h : Hint)
  | initVar (h : Hint)
  | annotated (h : Hint) (notes : List Constant)
  | literal (values : List Constant)
  | typeVar (name : String)
  | forward (text : String)
  | form (f : Form)
  | constant (c : Constant)
  | object (o : ObjectRef)
  deriving Repr

instance : Inhabited Hint := ⟨.anyClassVar⟩

namespace Hint

def noneType : Hint := .cls .noneType

mutual

/-- Equality of hints. Unions of either spelling are equal when they have the same members, and
literals when they have the same values, in any order. -/
def equals : Hint → Hint → Bool
  | .cls c, .cls c' => c == c'
  | .capital o, .capital o' => o == o'
  | .anyClassVar, .anyClassVar => true
  | .generic o xs, .generic o' ys => o == o' && allEqual xs ys
  | .capitalGeneric o xs, .capitalGeneric o' ys => o == o' && allEqual xs ys
  | .union xs, .union ys | .union xs, .alternatives ys
  | .alternatives xs, .union ys | .alternatives xs, .alternatives ys =>
    allIn xs ys && ys.all fun y => isIn y xs
  | .classVar h, .classVar h' => h.equals h'
  | .final h, .final h' => h.equals h'
  | .initVar h, .initVar h' => h.equals h'
  | .annotated h notes, .annotated h' notes' => h.equals h' && notes == notes'
  | .literal values, .literal values' =>
    values.all values'.contains && values'.all values.contains
  | .typeVar name, .typeVar name' => name == name'
  | .forward name, .forward name' => name == name'
  | .form f, .form f' => f == f'
  | .constant c, .constant c' => c == c'
  | .object o, .object o' => o == o'
  | _, _ => false
termination_by structural h => h

def allEqual : List Hint → List Hint → Bool
  | [], [] => true
  | x :: xs, y :: ys => x.equals y && allEqual xs ys
  | _, _ => false

def allIn : List Hint → List Hint → Bool
  | [], _ => true
  | x :: xs, ys => (ys.any fun y => x.equals y) && allIn xs ys

def isIn (y : Hint) : List Hint → Bool
  | [] => false
  | x :: xs => x.equals y || isIn y xs

end

instance : BEq Hint := ⟨equals⟩

mutual

def itemText : Hint → String
  | .cls c => c.place
  | .capital o => "typing." ++ o.capital
  | .anyClassVar => "typing.ClassVar"
  | .generic o args =>
    let inner := if args.isEmpty then "()" else ", ".intercalate (itemTexts args)
    s!"{o.name}[{inner}]"
  | .capitalGeneric o args =>
    let inner := if args.isEmpty then "()" else ", ".intercalate (itemTexts args)
    s!"typing.{o.capital}[{inner}]"
  | .union members =>
    match members with
    | [a, b] =>
      if a == noneType then "typing.Optional[" ++ b.itemText ++ "]"
      else if b == noneType then "typing.Optional[" ++ a.itemText ++ "]"
      else "typing.Union[" ++ a.itemText ++ ", " ++ b.itemText ++ "]"
    | members =>
      let inner := ", ".intercalate (itemTexts members)
      s!"typing.Union[{inner}]"
  | .alternatives members => " | ".intercalate (alternativeTexts members)
  | .classVar h => "typing.ClassVar[" ++ h.itemText ++ "]"
  | .final h => "typing.Final[" ++ h.itemText ++ "]"
  | .initVar h =>
    let inner := match h with
      | .cls c => c.name
      | h => h.itemText
    s!"dataclasses.InitVar[{inner}]"
  | .annotated h notes =>
    let inner := ", ".intercalate (h.itemText :: Constant.allShown notes)
    s!"typing.Annotated[{inner}]"
  | .literal values =>
    let inner := ", ".intercalate (Constant.allShown values)
    s!"typing.Literal[{inner}]"
  | .typeVar name => "~" ++ name
  | .forward text => s!"ForwardRef({Text.quoted text})"
  | .form f => "typing." ++ f.name
  | .constant c => c.shown
  | .object o => o.shown

def itemTexts : List Hint → List String
  | [] => []
  | h :: hs => h.itemText :: itemTexts hs

/-- The texts of alternatives: the type of the absent value is written as the value. -/
def alternativeTexts : List Hint → List String
  | [] => []
  | h :: hs => (if h == noneType then "None" else h.itemText) :: alternativeTexts hs

end

def text : Hint → String
  | .constant c => c.display
  | .object o => o.display
  | h => h.itemText

end Hint

end StructForge.Live

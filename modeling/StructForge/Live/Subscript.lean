import StructForge.Live.Name

/-! # Values as hints, and hints with arguments

Any value can stand inside a hint. A container, or a name of the library that stands for no type
alone, makes a hint of the values that it is given as arguments. -/

namespace StructForge.Live

def Origin.ofName? (name : String) : Option Origin :=
  [Origin.list, .dict, .tuple, .set, .frozenset].find? (·.name == name)

namespace Value

def asHint : Value → Hint
  | .hint h => h
  | .none => .constant .none
  | .bool b => .constant (.bool b)
  | .int i => .constant (.int i)
  | .text s => .constant (.text s)
  | v => .object ⟨.none, v.typeName, v.shown, v.display⟩

def arguments : Value → List Value
  | .tuple items => items
  | v => [v]

def singleFault (form demand : String) (index : Value) : Fault :=
  ⟨.badType, s!"typing.{form} {demand} single type. Got {index.shown.take 100}."⟩

/-- The constants among hints, if there is nothing else. -/
def constants? (hs : List Hint) : Option (List Constant) :=
  hs.mapM fun
    | .constant c => some c
    | _ => .none

def noted (hs : List Hint) : Except Fault Hint :=
  match hs with
  | h :: note :: notes =>
    match constants? (note :: notes) with
    | some cs => cs.foldlM Hint.noted h
    | .none => .error ⟨.badType, "notes other than constants are not kept"⟩
  | _ => .error ⟨.badType,
      "Annotated[...] should be used with at least two arguments (a type and an annotation)."⟩

/-- The values that stand for types, and those of them that take other types as arguments. -/
def subscript (v index : Value) : Except Fault Value :=
  let args := index.arguments.map asHint
  let fault : Fault := match v with
    | .hint (.cls c) => ⟨.badType, s!"type '{c.name}' is not subscriptable"⟩
    | .hint (.generic ..) | .hint (.capitalGeneric ..) | .hint (.union _)
    | .hint (.alternatives _) => ⟨.badType, s!"{v.shown} is not a generic class"⟩
    | v => ⟨.badType, s!"'{v.typeName}' object is not subscriptable"⟩
  match v, args with
  | .hint (.cls (.builtin name)), args =>
    match Origin.ofName? name with
    | some o => .ok (.hint (.generic o args))
    | .none => .error fault
  | .hint (.cls .annotated), args => (noted args).map .hint
  | .hint (.cls .initVar), _ => .ok (.hint (.initVar index.asHint))
  | .hint (.capital o), args => (Hint.capitalOf o args).map .hint
  | .hint .anyClassVar, [h] => h.checkArgument.map fun h => .hint (.classVar h)
  | .hint .anyClassVar, _ => .error (singleFault "ClassVar" "accepts only" index)
  | .hint (.form .final), [h] => h.checkArgument.map fun h => .hint (.final h)
  | .hint (.form .final), _ => .error (singleFault "Final" "accepts only" index)
  | .hint (.form .optional), [h] => (Hint.checkedUnion [h, .noneType]).map .hint
  | .hint (.form .optional), _ => .error (singleFault "Optional" "requires a" index)
  | .hint (.form .union), args => (Hint.checkedUnion args).map .hint
  | .hint (.form .literal), args =>
    match constants? args with
    | some cs => .ok (.hint (Hint.literalOf cs))
    | .none => .error ⟨.badType, "literals other than constants are not kept"⟩
  | _, _ => .error fault

end Value

end StructForge.Live

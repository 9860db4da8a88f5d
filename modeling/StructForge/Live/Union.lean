import StructForge.Fault
import StructForge.Live.Value

/-! # Forming hints

Hints are kept in a normal form: a union has no union inside, no member twice and at least two
members, and notes on a noted hint join its own. What cannot be an argument of a generic is refused
when the generic is formed. -/

namespace StructForge.Live

namespace Hint

/-- The members of a union of either spelling; another hint is its own only member. -/
def members : Hint → List Hint
  | .union hs | .alternatives hs => hs
  | h => [h]

/-- A list of hints without repetitions; the first occurrence is kept. -/
def distinct (hs : List Hint) : List Hint :=
  hs.foldl (fun kept h => if kept.contains h then kept else kept ++ [h]) []

def unionOf (hs : List Hint) : Hint :=
  match distinct (hs.flatMap members) with
  | [h] => h
  | hs => .union hs

def alternativesOf (hs : List Hint) : Hint :=
  match distinct (hs.flatMap members) with
  | [h] => h
  | hs => .alternatives hs

/-- An argument of a generic: a text is a forward reference, and the absent value is its type. -/
def argument : Hint → Hint
  | .constant (.text s) => .forward s
  | .constant .none => noneType
  | h => h

def checkArgument (h : Hint) : Except Fault Hint :=
  match h.argument with
  | .classVar _ | .final _ => .error ⟨.badType, s!"{h.itemText} is not valid as type argument"⟩
  | .annotated .anyClassVar _ | .annotated (.form .final) _ =>
    .error ⟨.badType, s!"{h.itemText} is not valid as type argument"⟩
  | .anyClassVar | .form _ =>
    .error ⟨.badType, s!"Plain {h.itemText} is not valid as type argument"⟩
  | h => .ok h

theorem checkArgument_eq_ok {h k : Hint} (hk : h.checkArgument = .ok k) : k = h.argument := by
  unfold checkArgument at hk
  split at hk
  all_goals first | exact (Except.ok.inj hk).symm | cases hk

/-- The number of arguments that a capitalised generic takes, none if any number will do. -/
def arity? : Origin → Option Nat
  | .list | .set | .frozenset => some 1
  | .dict => some 2
  | .tuple => none

def capitalOf (o : Origin) (args : List Hint) : Except Fault Hint := do
  let args ← args.mapM checkArgument
  match arity? o with
  | none => return .capitalGeneric o args
  | some n =>
    if args.length = n then return .capitalGeneric o args
    else
      let amount := if args.length < n then "few" else "many"
      throw ⟨.badType,
        s!"Too {amount} arguments for typing.{o.capital}; actual {args.length}, expected {n}"⟩

def checkedUnion (hs : List Hint) : Except Fault Hint := do
  if hs.isEmpty then throw ⟨.badType, "Cannot take a Union of no types."⟩
  return unionOf (← hs.mapM checkArgument)

/-- Whether a hint is spelled with the capitalised generics, so that alternatives with it form a
union. -/
def isCapital : Hint → Bool
  | .capital _ | .anyClassVar | .capitalGeneric .. | .union _ | .classVar _ | .final _
  | .annotated .. | .literal _ | .typeVar _ | .forward _ | .form _ => true
  | _ => false

def isPlain : Hint → Bool
  | .cls _ | .generic .. | .alternatives _ | .constant .none => true
  | _ => false

def either (a b : Hint) : Except Fault Hint :=
  if a.isCapital || b.isCapital then checkedUnion [a, b]
  else if a.isPlain && b.isPlain then
    match a, b with
    | .constant .none, .constant .none =>
      .error ⟨.badType, "unsupported operand type(s) for |: 'NoneType' and 'NoneType'"⟩
    | a, b => .ok (alternativesOf [a.argument, b.argument])
  else
    let name := fun h : Hint => (Value.hint h).typeName
    .error ⟨.badType, s!"unsupported operand type(s) for |: '{name a}' and '{name b}'"⟩

/-- Several hints as alternatives, joined from the left. -/
def alternatively : List Hint → Except Fault Hint
  | [] => .error ⟨.badType, "Cannot take a Union of no types."⟩
  | h :: hs => hs.foldlM either h

def noteFault? : Hint → Option Fault
  | .constant k =>
    some ⟨.missingAttribute, s!"'{k.typeName}' object has no attribute '__module__'"⟩
  | _ => none

def noted (h : Hint) (c : Constant) : Except Fault Hint :=
  match h.argument with
  | .annotated h notes => .ok (.annotated h (notes ++ [c]))
  | h =>
    match h.noteFault? with
    | some f => .error f
    | none => .ok (.annotated h [c])

def literalOf (cs : List Constant) : Hint :=
  .literal (cs.foldl (fun kept c => if kept.contains c then kept else kept ++ [c]) [])

mutual

def strip : Hint → Hint
  | .annotated h _ => strip h
  | .generic o args => .generic o (stripAll args)
  | .capitalGeneric o args => .capitalGeneric o (stripAll args)
  | .union hs => unionOf (stripAll hs)
  | .alternatives hs => alternativesOf (stripAll hs)
  | .classVar h => .classVar (strip h)
  | .final h => .final (strip h)
  | h => h

def stripAll : List Hint → List Hint
  | [] => []
  | h :: hs => strip h :: stripAll hs

end

end Hint

end StructForge.Live

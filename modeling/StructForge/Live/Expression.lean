import StructForge.Live.Item
import StructForge.Live.Subscript
import StructForge.Text.Blank
import StructForge.Text.Digit
import StructForge.Text.Identifier
import StructForge.Text.Normal

/-! # Expressions

The texts that stand for hints are expressions: names, attributes, arguments in brackets,
alternatives, tuples and constants. An expression is evaluated from the values of its names and of
the attributes in it. -/

namespace StructForge.Live

open Text

inductive Expression where
  | name (name : String)
  | constant (c : Constant)
  | ellipsis
  | access (owner : Expression) (name : String)
  | item (owner index : Expression)
  | either (left right : Expression)
  | tuple (items : List Expression)

instance : Inhabited Expression := ⟨.ellipsis⟩

structure Lookups where
  name? : String → Option Value
  attribute? : Value → String → Option Value

structure Lookups.Agree (l l' : Lookups) (names attributes : List String) : Prop where
  names : ∀ name ∈ names, l'.name? name = l.name? name
  attributes : ∀ name ∈ attributes, ∀ v, l'.attribute? v name = l.attribute? v name

namespace Expression

def omitted : Value := .hint (.object ⟨none, "ellipsis", "...", "Ellipsis"⟩)

def ofConstant : Constant → Value
  | .none => .none
  | .bool b => .bool b
  | .int i => .int i
  | .text s => .text s
  | c => .hint (.constant c)

mutual

def value (l : Lookups) : Expression → Except String Value
  | .name n =>
    match l.name? n with
    | some v => .ok v
    | none => .error s!"name {quoted n} is not defined"
  | .constant c => .ok (ofConstant c)
  | .ellipsis => .ok omitted
  | .access owner n => do
    let v ← owner.value l
    match l.attribute? v n with
    | some w => return w
    | none => throw (v.attributeFault n).message
  | .item owner index => do
    let v ← owner.value l
    let w ← index.value l
    (v.subscript w).mapError (·.message)
  | .either left right => do
    let v ← left.value l
    let w ← right.value l
    ((Hint.either v.asHint w.asHint).map .hint).mapError (·.message)
  | .tuple items => return .tuple (← values l items)

def values (l : Lookups) : List Expression → Except String (List Value)
  | [] => .ok []
  | e :: es => do
    let v ← e.value l
    return v :: (← values l es)

end

mutual

def names : Expression → List String
  | .name n => [n]
  | .constant _ | .ellipsis => []
  | .access owner _ => owner.names
  | .item owner index => owner.names ++ index.names
  | .either left right => left.names ++ right.names
  | .tuple items => namesAll items

def namesAll : List Expression → List String
  | [] => []
  | e :: es => e.names ++ namesAll es

end

mutual

def attributes : Expression → List String
  | .name _ | .constant _ | .ellipsis => []
  | .access owner n => owner.attributes ++ [n]
  | .item owner index => owner.attributes ++ index.attributes
  | .either left right => left.attributes ++ right.attributes
  | .tuple items => attributesAll items

def attributesAll : List Expression → List String
  | [] => []
  | e :: es => e.attributes ++ attributesAll es

end

end Expression

section Agree

variable {l l' : Lookups} {names names' attributes attributes' : List String}

theorem Lookups.Agree.mono (h : l.Agree l' names attributes) (hnames : names' ⊆ names)
    (hattributes : attributes' ⊆ attributes) : l.Agree l' names' attributes' :=
  ⟨fun name hname => h.names name (hnames hname),
    fun name hname => h.attributes name (hattributes hname)⟩

theorem Lookups.Agree.parts (h : l.Agree l' (names ++ names') (attributes ++ attributes')) :
    l.Agree l' names attributes ∧ l.Agree l' names' attributes' :=
  ⟨h.mono (List.subset_append_left ..) (List.subset_append_left ..),
    h.mono (List.subset_append_right ..) (List.subset_append_right ..)⟩

mutual

theorem Expression.value_congr (e : Expression) (h : l.Agree l' e.names e.attributes) :
    e.value l' = e.value l := by
  cases e with
  | name name =>
    have hname := h.names name (by simp [Expression.names])
    simp only [Expression.value, hname]
  | constant c => rfl
  | ellipsis => rfl
  | access owner name =>
    rw [Expression.names, Expression.attributes] at h
    have howner := owner.value_congr (h.mono (List.Subset.refl _) (List.subset_append_left ..))
    have hname := h.attributes name (by simp)
    simp only [Expression.value, howner, hname]
  | item owner index =>
    rw [Expression.names, Expression.attributes] at h
    obtain ⟨howner, hindex⟩ := h.parts
    simp only [Expression.value, owner.value_congr howner, index.value_congr hindex]
  | either left right =>
    rw [Expression.names, Expression.attributes] at h
    obtain ⟨hleft, hright⟩ := h.parts
    simp only [Expression.value, left.value_congr hleft, right.value_congr hright]
  | tuple items =>
    rw [Expression.names, Expression.attributes] at h
    simp only [Expression.value, Expression.values_congr items h]

theorem Expression.values_congr (es : List Expression)
    (h : l.Agree l' (Expression.namesAll es) (Expression.attributesAll es)) :
    Expression.values l' es = Expression.values l es := by
  cases es with
  | nil => rfl
  | cons e es =>
    rw [Expression.namesAll, Expression.attributesAll] at h
    obtain ⟨hfirst, hrest⟩ := h.parts
    simp only [Expression.values, e.value_congr hfirst, Expression.values_congr es hrest]

end

end Agree

end StructForge.Live

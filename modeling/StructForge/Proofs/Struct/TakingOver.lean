import StructForge.Proofs.Container.Elements
import StructForge.Proofs.Struct.FieldSlots

/-! # Values taken over

The constructor takes an element of a container over as it is, except for a vector, which it makes
again of the components. -/

namespace StructForge.Container

open Live

theorem vector_of_components {width : Nat} {components : List Value} {xs : List Number.Binary}
    (h : List.Forall₂ IsComponent components xs) (hwidth : components.length = width)
    (hne : components ≠ []) : vector width components = .ok (.single xs) := by
  have hcomponents : components.mapM (component .single) = .ok xs :=
    mapM_eq_ok.mpr (h.imp fun _ _ hx => (component_of_isComponent hx).1)
  have hsequence : components.any isSequence = false := by
    rw [List.any_eq_false]
    intro v hv
    obtain ⟨x, hpair⟩ := exists_mem_zip_left h hv
    rw [(component_of_isComponent (List.forall₂_zip h hpair)).2]
    exact Bool.false_ne_true
  unfold vector
  rw [if_neg (by simpa using hne), if_neg (by simp [hwidth]), hsequence, hcomponents]
  rfl

end StructForge.Container

namespace StructForge.Struct

open Live Container Schema

def IsValueOf (c : ClassRef) (v : Value) : Prop := ∃ w, IsElement c v w

inductive IsTaken : ClassRef → Value → Value → Prop
  | same {c : ClassRef} {v : Value} (h2 : c ≠ .vector2) (h3 : c ≠ .vector3) : IsTaken c v v
  | vector2 {x y : Value} {a b : Number.Binary} (hx : IsComponent x a) (hy : IsComponent y b) :
      IsTaken .vector2 (.vector2 x y) (.single [a, b])
  | vector3 {x y z : Value} {a b c : Number.Binary} (hx : IsComponent x a) (hy : IsComponent y b)
      (hz : IsComponent z c) : IsTaken .vector3 (.vector3 x y z) (.single [a, b, c])

variable {r : Registry} {m : StructModel} {s : Scope} {c : ClassRef} {v w : Value}
  {locals : List String}

theorem describe_enum (henum : c.enumBase?.isSome = true) :
    (Hint.cls c).describe r = r.describeClass c := by
  cases c with
  | builtin => cases henum
  | _ => rfl

theorem IsValueClass.describe (hclass : IsValueClass r c) :
    (Hint.cls c).describe r = r.describeClass c := by
  cases hclass with
  | enum henum => exact describe_enum henum
  | _ => rfl

theorem IsValueClass.copy_same (hclass : IsValueClass r c) (h2 : c ≠ .vector2) (h3 : c ≠ .vector3) :
    Copy.ofType (r.describeClass c) = .same := by
  cases hclass with
  | vector2 => contradiction
  | vector3 => contradiction
  | enum henum =>
    rw [describeClass_enum henum]
    rfl
  | _ => rfl

theorem IsValueClass.isValueType (hclass : IsValueClass r c) :
    (r.describeClass c).isValueType = true := by
  cases hclass with
  | enum henum =>
    rw [describeClass_enum henum]
    rfl
  | _ => rfl

theorem exists_isTaken (h : IsElement c v w) : ∃ u, IsTaken c v u ∧
    ((c.numberKind?.isSome = true ∧ u = v) ∨ (c.numberKind? = none ∧ u = w)) := by
  cases h with
  | member hc =>
    refine ⟨_, .same ?_ ?_, .inr ⟨ClassRef.numberKind?_of_enum hc, rfl⟩⟩
    · rintro rfl
      cases hc
    · rintro rfl
      cases hc
  | vector2 hx hy => exact ⟨_, .vector2 hx hy, .inr ⟨rfl, rfl⟩⟩
  | vector3 hx hy hz => exact ⟨_, .vector3 hx hy hz, .inr ⟨rfl, rfl⟩⟩
  | _ => refine ⟨_, .same ?_ ?_, .inl ⟨rfl, rfl⟩⟩ <;> simp

theorem take_ok (hload : Scope.load r m = .ok s) (hclass : IsValueClass r c)
    (huses : ∀ u ∈ (Copy.ofType (r.describeClass c)).uses, m.meaning (.body locals) u.1 = u.2)
    (h : IsTaken c v w) : (Copy.ofType (r.describeClass c)).take s v = .ok w := by
  cases h with
  | same h2 h3 =>
    rw [hclass.copy_same h2 h3]
    rfl
  | @vector2 x y a b hx hy =>
    have hfind : s.find RuntimeName.float2.text = .hint (.cls .float2) :=
      Scope.find_library hload (huses _ List.mem_cons_self) rfl
    change s.vector2 [x, y] = _
    unfold Scope.vector2
    rw [hfind]
    exact vector_of_components (.cons hx (.cons hy .nil)) rfl (by simp)
  | @vector3 x y z a b c hx hy hz =>
    have hfind : s.find RuntimeName.float3.text = .hint (.cls .float3) :=
      Scope.find_library hload (huses _ List.mem_cons_self) rfl
    change s.vector3 [x, y, z] = _
    unfold Scope.vector3
    rw [hfind]
    exact vector_of_components (.cons hx (.cons hy (.cons hz .nil))) rfl (by simp)

theorem take_iff (hload : Scope.load r m = .ok s) (hclass : IsValueClass r c)
    (huses : ∀ u ∈ (Copy.ofType (r.describeClass c)).uses, m.meaning (.body locals) u.1 = u.2)
    (hv : IsValueOf c v) :
    (Copy.ofType (r.describeClass c)).take s v = .ok w ↔ IsTaken c v w := by
  constructor
  · intro h
    obtain ⟨x, hx⟩ := hv
    obtain ⟨u, hu, -⟩ := exists_isTaken hx
    cases (take_ok hload hclass huses hu).symm.trans h
    exact hu
  · exact take_ok hload hclass huses

def hiddenRank : ClassRef := .defined 0 ⟨"__Rank", "ranking", "__Rank"⟩ (some .plain)

def rankedUnit : ClassRef := .defined 1 ⟨"Unit", "ranking", "Unit"⟩ none

/-- The program of these classes, for a given type of the field. -/
def hiddenRegistry (h : Hint) : Registry where
  classes := [
    { label := hiddenRank.label
      order := [hiddenRank, .enumBase .plain, objectClass]
      body := .enum .plain (membersOf [("LOW", .int 1)])
      collected := none
      attributes := [] },
    { label := rankedUnit.label
      order := [rankedUnit, objectClass]
      body := .record true [("ranks", h)]
      collected := some [("ranks", .field)]
      attributes := [] }]
  modules := [⟨"ranking",
    [("__Rank", .hint (.cls hiddenRank)), ("Unit", .hint (.cls rankedUnit))]⟩]

theorem isValueClass_hiddenRank (h : Hint) : IsValueClass (hiddenRegistry h) hiddenRank :=
  .enum rfl ⟨by decide, _, rfl, rfl⟩

def hiddenMember : Value := .member hiddenRank .plain "LOW" (.int 1)

end StructForge.Struct

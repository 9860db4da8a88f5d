import Mathlib.Data.List.Find
import Mathlib.Data.List.Forall2
import StructForge.Proofs.Live.RetainedHint
import StructForge.Proofs.Steps

/-! # Respelled hints

A list or dictionary has a built-in spelling and a capitalised one. Hints that differ only in which
of them is used, at any depth, have the same category. Not every such hint has the same description:
whatever is described by its text shows how it is spelled. -/

namespace StructForge

namespace Schema

def TypeRef.Alike (t t' : TypeRef) : Prop :=
  t = t' ∨ (t.isValueType = false ∧ t'.isValueType = false)

theorem TypeRef.Alike.isValueType {t t' : TypeRef} (halike : t.Alike t') :
    t.isValueType = t'.isValueType := by
  rcases halike with rfl | ⟨ht, ht'⟩
  · rfl
  · rw [ht, ht']

theorem TypeRef.Alike.isKeyType {t t' : TypeRef} (halike : t.Alike t') :
    t.isKeyType = t'.isKeyType := by
  rcases halike with rfl | ⟨ht, ht'⟩
  · rfl
  · rw [TypeRef.isKeyType, TypeRef.isKeyType, ht, ht', Bool.false_and, Bool.false_and]

theorem TypeRef.Alike.trans {t₁ t₂ t₃ : TypeRef} (hfirst : t₁.Alike t₂) (hsecond : t₂.Alike t₃) :
    t₁.Alike t₃ := by
  rcases hfirst with rfl | ⟨h₁, h₂⟩
  · exact hsecond
  · exact .inr ⟨h₁, hsecond.isValueType ▸ h₂⟩

end Schema

namespace Live

open Schema

variable {r : Registry} {h h' : Hint} {o : Origin} {hs hs' : List Hint}

def Origin.isDescribed : Origin → Bool
  | .list | .dict => true
  | _ => false

section Mirrors

/-- A result that stands for a value if it exists, and exists under a condition. -/
def Mirrors {α β : Type} (c : Prop) (R : α → β → Prop) (a : α) (x : Except Fault β) : Prop :=
  (∀ b, x = .ok b → R a b) ∧ (c → ∃ b, x = .ok b)

variable {α α' β β' : Type} {c c' : Prop} {R : α → β → Prop} {S : α' → β' → Prop} {a : α} {a' : α'}
  {b : β} {x : Except Fault β} {f : β → Except Fault β'}

theorem mirrors_ok (hb : R a b) : Mirrors c R a (.ok b) :=
  ⟨fun _ hsame => by cases hsame; exact hb, fun _ => ⟨b, rfl⟩⟩

theorem Mirrors.imp (hx : Mirrors c R a x) (hc : c' → c) : Mirrors c' R a x :=
  ⟨hx.1, fun hcondition => hx.2 (hc hcondition)⟩

theorem Mirrors.bind (hx : Mirrors c R a x)
    (hf : ∀ b, x = .ok b → R a b → Mirrors c S a' (f b)) : Mirrors c S a' (x >>= f) := by
  constructor
  · intro b' hb'
    obtain ⟨b, hb, hb'⟩ := bind_eq_ok.mp hb'
    exact (hf b hb (hx.1 b hb)).1 b' hb'
  · intro hcondition
    obtain ⟨b, hb⟩ := hx.2 hcondition
    rw [hb, ok_bind]
    exact (hf b hb (hx.1 b hb)).2 hcondition

end Mirrors

namespace Hint

/-- Hints that differ in the spelling of lists and dictionaries. A capitalised generic takes its
arguments as types, a built-in one takes them as they are. -/
inductive Respelled : Hint → Hint → Prop
  | same (h : Hint) : Respelled h h
  | bare {o : Origin} (ho : o.isDescribed = true) :
      Respelled (.capital o) (.cls (.builtin o.name))
  | swapped {o : Origin} {hs hs' : List Hint} (ho : o.isDescribed = true)
      (hargs : List.Forall₂ Respelled hs hs') :
      Respelled (.capitalGeneric o (hs.map argument)) (.generic o hs')
  | generic {o : Origin} {hs hs' : List Hint} (hargs : List.Forall₂ Respelled hs hs') :
      Respelled (.generic o hs) (.generic o hs')
  | capitalGeneric {o : Origin} {hs hs' : List Hint} (hargs : List.Forall₂ Respelled hs hs') :
      Respelled (.capitalGeneric o hs) (.capitalGeneric o hs')
  | union {hs hs' : List Hint} (hmembers : List.Forall₂ Respelled hs hs') :
      Respelled (.union hs) (.union hs')
  | opened {hs hs' : List Hint} (hmembers : List.Forall₂ Respelled hs hs') :
      Respelled (.union hs) (.alternatives hs')
  | alternatives {hs hs' : List Hint} (hmembers : List.Forall₂ Respelled hs hs') :
      Respelled (.alternatives hs) (.alternatives hs')
  | classVar {h h' : Hint} (hinner : Respelled h h') : Respelled (.classVar h) (.classVar h')
  | final {h h' : Hint} (hinner : Respelled h h') : Respelled (.final h) (.final h')
  | initVar {h h' : Hint} (hinner : Respelled h h') : Respelled (.initVar h) (.initVar h')
  | annotated {h h' : Hint} {notes : List Constant} (hinner : Respelled h h') :
      Respelled (.annotated h notes) (.annotated h' notes)

section Categories

theorem describe_bare (ho : o.isDescribed = true) :
    (Hint.cls (.builtin o.name)).describe r = (Hint.capital o).describe r := by
  cases o <;> first | rfl | cases ho

end Categories

section Forming

/-- As an argument a hint that differs in spelling stands for itself: no constant has a spelling. -/
theorem Respelled.argument_eq (hrespelled : Respelled h h') :
    h = h' ∨ (h.argument = h ∧ h'.argument = h') := by
  cases hrespelled with
  | same => exact .inl rfl
  | _ => exact .inr ⟨rfl, rfl⟩

theorem Respelled.argument (hrespelled : Respelled h h') : Respelled h.argument h'.argument := by
  rcases hrespelled.argument_eq with rfl | ⟨hh, hh'⟩
  · exact .same _
  · rwa [hh, hh']

theorem Respelled.members (hrespelled : Respelled h h') :
    List.Forall₂ Respelled h.members h'.members := by
  have hself := hrespelled
  cases hrespelled with
  | same => exact List.forall₂_same.mpr fun a _ => .same a
  | union hmembers | opened hmembers | alternatives hmembers => exact hmembers
  | _ => exact .cons hself .nil

theorem Respelled.checkArgument (hrespelled : Respelled h h') {k : Hint}
    (hk : h.checkArgument = .ok k) : h'.checkArgument = .ok h'.argument := by
  cases hrespelled with
  | same => rw [hk, checkArgument_eq_ok hk]
  | classVar | final => cases hk
  | @annotated inner inner' notes hinner =>
    cases inner' with
    | anyClassVar =>
      cases hinner
      cases hk
    | form f =>
      cases hinner
      rw [hk, checkArgument_eq_ok hk]
    | _ => rfl
  | _ => rfl

theorem Respelled.mirrors_checkArgument (hrespelled : Respelled h h') {k : Hint}
    (hk : h.checkArgument = .ok k) {condition : Prop} :
    Mirrors condition Respelled k h'.checkArgument := by
  rw [hrespelled.checkArgument hk, checkArgument_eq_ok hk]
  exact mirrors_ok hrespelled.argument

theorem mapM_checkArgument {ks : List Hint} (hargs : List.Forall₂ Respelled hs hs')
    (hks : hs.mapM checkArgument = .ok ks) :
    ks = hs.map argument ∧ hs'.mapM checkArgument = .ok (hs'.map argument) := by
  induction hargs generalizing ks with
  | nil =>
    rw [List.mapM_nil, pure_eq_ok] at hks
    exact ⟨hks.symm, rfl⟩
  | cons hfirst _ ih =>
    obtain ⟨k, ks, hk, hmap, rfl⟩ := mapM_cons_eq_ok.mp hks
    obtain ⟨rfl, hrest⟩ := ih hmap
    refine ⟨by rw [List.map_cons, checkArgument_eq_ok hk], ?_⟩
    exact mapM_cons_eq_ok.mpr ⟨_, _, hfirst.checkArgument hk, hrest, rfl⟩

/-- What a capitalised generic takes does not depend on the spelling of its arguments. -/
theorem capitalOf_eq_ok (hargs : List.Forall₂ Respelled hs hs') (hh : capitalOf o hs = .ok h) :
    h = .capitalGeneric o (hs.map argument) ∧
      capitalOf o hs' = .ok (.capitalGeneric o (hs'.map argument)) := by
  obtain ⟨ks, hks, hh⟩ := bind_eq_ok.mp hh
  obtain ⟨rfl, hks'⟩ := mapM_checkArgument hargs hks
  unfold capitalOf
  rw [hks', ok_bind]
  split at hh
  · cases hh
    exact ⟨rfl, rfl⟩
  · rw [List.length_map] at hh ⊢
    rw [← hargs.length_eq]
    split at hh
    · rename_i hlength
      cases hh
      exact ⟨rfl, if_pos hlength⟩
    · cases hh

theorem Respelled.noted (hrespelled : Respelled h h') {note : Constant} {k : Hint}
    (hk : h.noted note = .ok k) : ∃ k', h'.noted note = .ok k' ∧ Respelled k k' := by
  have hself := hrespelled
  cases hrespelled with
  | same => exact ⟨k, hk, .same k⟩
  | annotated hinner =>
    cases hk
    exact ⟨_, rfl, .annotated hinner⟩
  | _ =>
    cases hk
    exact ⟨_, rfl, .annotated hself⟩

end Forming

section Unions

/-- The members of the union of some hints, before repetitions are left out. -/
def memberList (hs : List Hint) : List Hint := (hs.map argument).flatMap members

def KeepEqualities (hs hs' : List Hint) : Prop :=
  ∀ p ∈ hs.zip hs', ∀ q ∈ hs.zip hs', (p.2 == q.2) = (p.1 == q.1)

/-- The repetitions in two lists with the same equalities are at the same places. The kept pairs are
the invariant of the walk over both. -/
theorem exists_kept (ps kept : List (Hint × Hint))
    (hequalities : ∀ p ∈ kept ++ ps, ∀ q ∈ kept ++ ps, (p.2 == q.2) = (p.1 == q.1)) :
    ∃ all, all ⊆ kept ++ ps ∧
      (ps.map (·.1)).foldl (fun kept h => if kept.contains h then kept else kept ++ [h])
        (kept.map (·.1)) = all.map (·.1) ∧
      (ps.map (·.2)).foldl (fun kept h => if kept.contains h then kept else kept ++ [h])
        (kept.map (·.2)) = all.map (·.2) := by
  induction ps generalizing kept with
  | nil => exact ⟨kept, by simp, rfl, rfl⟩
  | cons p ps ih =>
    have hcontains : (kept.map (·.2)).contains p.2 = (kept.map (·.1)).contains p.1 := by
      rw [List.contains_map, List.contains_map]
      refine Bool.eq_iff_iff.mpr ?_
      simp only [List.any_eq_true]
      exact exists_congr fun q => and_congr_right fun hq => by
        rw [hequalities p (by simp) q (by simp [hq])]
    -- So a pair is dropped from both lists or kept in both.
    simp only [List.map_cons, List.foldl_cons, hcontains]
    split
    · have hsub : kept ++ ps ⊆ kept ++ p :: ps := by
        intro q hq
        simp only [List.mem_append, List.mem_cons] at hq ⊢
        tauto
      obtain ⟨all, hall, hfirst, hsecond⟩ := ih kept fun p hp q hq =>
        hequalities p (hsub hp) q (hsub hq)
      exact ⟨all, fun p hp => hsub (hall hp), hfirst, hsecond⟩
    · rw [List.append_cons] at hequalities
      obtain ⟨all, hall, hfirst, hsecond⟩ := ih (kept ++ [p]) hequalities
      rw [List.map_append] at hfirst hsecond
      rw [← List.append_cons] at hall
      exact ⟨all, hall, hfirst, hsecond⟩

theorem forall₂_distinct {R : Hint → Hint → Prop} (hrelated : List.Forall₂ R hs hs')
    (hequalities : KeepEqualities hs hs') : List.Forall₂ R (distinct hs) (distinct hs') := by
  obtain ⟨hlength, hpairs⟩ := List.forall₂_iff_zip.mp hrelated
  obtain ⟨all, hall, hfirst, hsecond⟩ := exists_kept (hs.zip hs') [] hequalities
  rw [List.map_fst_zip (Nat.le_of_eq hlength), List.map_nil] at hfirst
  rw [List.map_snd_zip (Nat.le_of_eq hlength.symm), List.map_nil] at hsecond
  unfold distinct
  rw [hfirst, hsecond, List.forall₂_map_left_iff, List.forall₂_map_right_iff]
  exact List.forall₂_same.mpr fun p hp => hpairs (hall hp)

theorem forall₂_distinct_memberList (hargs : List.Forall₂ Respelled hs hs')
    (hequalities : KeepEqualities (memberList hs) (memberList hs')) :
    List.Forall₂ Respelled (distinct (memberList hs)) (distinct (memberList hs')) := by
  refine forall₂_distinct ?_ hequalities
  exact List.rel_flatMap (List.rel_map (fun _ _ hrespelled => hrespelled.argument) hargs)
    fun _ _ hrespelled => hrespelled.members

/-- Unions whose members differ in spelling differ in spelling, and so do alternatives; a union may
also become alternatives. -/
theorem respelled_unionOf (hargs : List.Forall₂ Respelled hs hs')
    (hequalities : KeepEqualities (memberList hs) (memberList hs')) :
    Respelled (unionOf (hs.map argument)) (unionOf (hs'.map argument)) ∧
      Respelled (unionOf (hs.map argument)) (alternativesOf (hs'.map argument)) ∧
      Respelled (alternativesOf (hs.map argument)) (alternativesOf (hs'.map argument)) := by
  have hmembers := forall₂_distinct_memberList hargs hequalities
  unfold unionOf alternativesOf
  unfold memberList at hmembers
  generalize distinct ((hs.map argument).flatMap members) = ms at hmembers ⊢
  generalize distinct ((hs'.map argument).flatMap members) = ms' at hmembers ⊢
  rcases hmembers with _ | ⟨hfirst, _ | ⟨hsecond, hrest⟩⟩
  · exact ⟨.union .nil, .opened .nil, .alternatives .nil⟩
  · exact ⟨hfirst, hfirst, hfirst⟩
  · have hmany := List.Forall₂.cons hfirst (.cons hsecond hrest)
    exact ⟨.union hmany, .opened hmany, .alternatives hmany⟩

end Unions

section Joining

/-- A hint that can be joined to others by `|`: a type or the absent value. -/
def CanJoin (h : Hint) : Prop := h.isCapital = true ∨ h.isPlain = true

theorem Respelled.isCapital (hrespelled : Respelled h h') (hcapital : h'.isCapital = true) :
    h.isCapital = true := by
  cases hrespelled with
  | same => exact hcapital
  | bare | swapped | generic | opened | alternatives | initVar => cases hcapital
  | _ => rfl

theorem Respelled.canJoin (hrespelled : Respelled h h') (hjoin : h.CanJoin) : h'.CanJoin := by
  cases hrespelled with
  | same => exact hjoin
  | bare | swapped | generic | opened | alternatives => exact .inr rfl
  | initVar => exact absurd hjoin (by simp [CanJoin, Hint.isCapital, isPlain])
  | _ => exact .inl rfl

theorem checkedUnion_eq_ok (hargs : List.Forall₂ Respelled hs hs') (hh : checkedUnion hs = .ok h) :
    h = unionOf (hs.map argument) ∧ checkedUnion hs' = .ok (unionOf (hs'.map argument)) := by
  cases hargs with
  | nil => cases hh
  | cons hfirst hrest =>
    obtain ⟨ks, hks, hh⟩ := bind_eq_ok.mp hh
    obtain ⟨rfl, hks'⟩ := mapM_checkArgument (.cons hfirst hrest) hks
    cases hh
    exact ⟨rfl, bind_eq_ok.mpr ⟨_, hks', rfl⟩⟩

section Either

variable {x y x' y' : Hint}

theorem either_plain (hcapital : ¬(x.isCapital || y.isCapital) = true)
    (hplain : (x.isPlain && y.isPlain) = true)
    (hnone : ¬(x = .constant .none ∧ y = .constant .none)) :
    either x y = .ok (alternativesOf ([x, y].map argument)) := by
  unfold either
  rw [if_neg hcapital, if_pos hplain]
  split
  · exact absurd ⟨rfl, rfl⟩ hnone
  · rfl

theorem either_capital (hcapital : (x.isCapital || y.isCapital) = true) :
    either x y = checkedUnion [x, y] := by
  unfold either
  rw [if_pos hcapital]

theorem either_ne_ok (hcapital : ¬(x.isCapital || y.isCapital) = true)
    (hplain : ¬(x.isPlain && y.isPlain) = true) : either x y ≠ .ok h := by
  unfold either
  rw [if_neg hcapital, if_neg hplain]
  nofun

/-- What `|` makes of two hints, and of the same hints in another spelling. -/
theorem mirrors_either (hx : Respelled x x') (hy : Respelled y y')
    (hequalities : KeepEqualities (memberList [x, y]) (memberList [x', y']))
    (heither : either x y = .ok h) :
    Mirrors (x.CanJoin ∧ y.CanJoin) Respelled h (either x' y') := by
  have hargs : List.Forall₂ Respelled [x, y] [x', y'] := .cons hx (.cons hy .nil)
  obtain ⟨hunion, hopened, halternatives⟩ := respelled_unionOf hargs hequalities
  by_cases hcapital' : (x'.isCapital || y'.isCapital) = true
  · have hcapital : (x.isCapital || y.isCapital) = true := by
      rw [Bool.or_eq_true] at hcapital' ⊢
      exact hcapital'.imp hx.isCapital hy.isCapital
    rw [either_capital hcapital] at heither
    obtain ⟨rfl, hunion'⟩ := checkedUnion_eq_ok hargs heither
    rw [either_capital hcapital', hunion']
    exact mirrors_ok hunion
  -- Neither hint is capitalised any more, so that alternatives may take the place of a union.
  by_cases hplain' : (x'.isPlain && y'.isPlain) = true
  · have hnone : ¬(x' = .constant .none ∧ y' = .constant .none) := by
      rintro ⟨rfl, rfl⟩
      cases hx
      cases hy
      cases heither
    rw [either_plain hcapital' hplain' hnone]
    refine mirrors_ok ?_
    by_cases hcapital : (x.isCapital || y.isCapital) = true
    · rw [either_capital hcapital] at heither
      obtain ⟨rfl, -⟩ := checkedUnion_eq_ok hargs heither
      exact hopened
    · by_cases hplain : (x.isPlain && y.isPlain) = true
      · have hnone' : ¬(x = .constant .none ∧ y = .constant .none) := by
          rintro ⟨rfl, rfl⟩
          cases heither
        rw [either_plain hcapital hplain hnone'] at heither
        cases heither
        exact halternatives
      · exact absurd heither (either_ne_ok hcapital hplain)
  · refine ⟨fun _ hsame => absurd hsame (either_ne_ok hcapital' hplain'),
      fun ⟨hjoinx, hjoiny⟩ => absurd ?_ hplain'⟩
    rw [Bool.or_eq_true, not_or] at hcapital'
    rw [Bool.and_eq_true]
    exact ⟨(hx.canJoin hjoinx).resolve_left hcapital'.1,
      (hy.canJoin hjoiny).resolve_left hcapital'.2⟩

end Either

end Joining

end Hint

end Live

end StructForge

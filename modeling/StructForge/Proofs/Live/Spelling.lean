import StructForge.Live.Name
import StructForge.Proofs.Live.RespelledHint

/-! # Two spellings of a hint

A hint is written with generics, unions and qualifiers before it is formed. Respelling some of its
capitalised lists and dictionaries leaves its category as it is, if the members of each union are
equal just where they were. Its description stays the same if only lists and dictionaries stand
above the respelled ones. -/

namespace StructForge.Live

open Hint Schema

variable {r : Registry} {h h' : Hint} {o : Origin}

/-- A hint as it is written. Alternatives are written two at a time. -/
inductive Written where
  | hint (h : Hint)
  | generic (o : Origin) (args : List Written)
  | capitalGeneric (o : Origin) (args : List Written)
  | union (args : List Written)
  | either (a b : Written)
  | classVar (w : Written)
  | final (w : Written)
  | initVar (w : Written)
  | noted (w : Written) (note : Constant)

mutual

def Written.formed : Written → Except Fault Hint
  | .hint h => .ok h
  | .generic o args => do return .generic o (← formedAll args)
  | .capitalGeneric o args => do Hint.capitalOf o (← formedAll args)
  | .union args => do Hint.checkedUnion (← formedAll args)
  | .either a b => do Hint.either (← a.formed) (← b.formed)
  | .classVar w => do return .classVar (← (← w.formed).checkArgument)
  | .final w => do return .final (← (← w.formed).checkArgument)
  | .initVar w => do return .initVar (← w.formed)
  | .noted w note => do (← w.formed).noted note

def formedAll : List Written → Except Fault (List Hint)
  | [] => .ok []
  | w :: ws => do return (← w.formed) :: (← formedAll ws)

end

variable {w w' : Written} {ws ws' : List Written}

section Forms

/-- What is written by a named form. More than two alternatives are joined from the left. -/
def Written.ofForm? (form : String) (args : List Written) : Option Written :=
  match form, args with
  | "list", _ => some (.generic .list args)
  | "dict", _ => some (.generic .dict args)
  | "tuple", _ => some (.generic .tuple args)
  | "set", _ => some (.generic .set args)
  | "frozenset", _ => some (.generic .frozenset args)
  | "List", _ => some (.capitalGeneric .list args)
  | "Dict", _ => some (.capitalGeneric .dict args)
  | "Tuple", _ => some (.capitalGeneric .tuple args)
  | "Set", _ => some (.capitalGeneric .set args)
  | "Union", _ => some (.union args)
  | "or", w :: ws => some (ws.foldl .either w)
  | "Optional", [w] => some (.union [w, .hint .noneType])
  | "ClassVar", [w] => some (.classVar w)
  | "Final", [w] => some (.final w)
  | "InitVar", [w] => some (.initVar w)
  | _, _ => none

theorem formedAll_cons {hs : List Hint} : formedAll (w :: ws) = .ok hs ↔
    ∃ h rest, w.formed = .ok h ∧ formedAll ws = .ok rest ∧ hs = h :: rest := by
  constructor
  · intro hformed
    obtain ⟨h, hh, hformed⟩ := bind_eq_ok.mp hformed
    obtain ⟨rest, hrest, ⟨⟩⟩ := bind_eq_ok.mp hformed
    exact ⟨h, rest, hh, hrest, rfl⟩
  · rintro ⟨h, rest, hh, hrest, rfl⟩
    exact bind_eq_ok.mpr ⟨h, hh, bind_eq_ok.mpr ⟨rest, hrest, rfl⟩⟩

theorem formed_foldl_either {hs : List Hint} (hws : formedAll ws = .ok hs) (w : Written) :
    (ws.foldl .either w).formed = w.formed >>= fun h => hs.foldlM Hint.either h := by
  induction ws generalizing w hs with
  | nil =>
    cases hws
    exact (bind_pure w.formed).symm
  | cons x ws ih =>
    obtain ⟨k, rest, hk, hrest, rfl⟩ := formedAll_cons.mp hws
    rw [List.foldl_cons, ih hrest, Written.formed, hk, bind_assoc]
    rfl

theorem formed_ofForm {form : String} {hs : List Hint} (hargs : formedAll ws = .ok hs)
    (hform : Written.ofForm? form ws = some w) : Hint.ofForm? form hs = some w.formed := by
  unfold Written.ofForm? at hform
  split at hform
  case h_11 =>
    obtain ⟨h, rest, hh, hrest, rfl⟩ := formedAll_cons.mp hargs
    cases hform
    rw [formed_foldl_either hrest, hh]
    rfl
  case h_12 | h_13 | h_14 | h_15 =>
    obtain ⟨h, rest, hh, ⟨⟩, rfl⟩ := formedAll_cons.mp hargs
    cases hform
    simp only [Written.formed, formedAll, hh]
    rfl
  case h_16 => cases hform
  all_goals
    cases hform
    rw [Written.formed, hargs]
    rfl

end Forms

/-- Respelling some capitalised lists and dictionaries of what is written, bare or with arguments.
The members of each union and those that take their places satisfy a condition. -/
inductive Respells (Keep : List Hint → List Hint → Prop) : Written → Written → Prop
  | hint (h : Hint) : Respells Keep (.hint h) (.hint h)
  | bare {o : Origin} (ho : o.isDescribed = true) :
      Respells Keep (.hint (.capital o)) (.hint (.cls (.builtin o.name)))
  | swapped {o : Origin} {ws ws' : List Written} (ho : o.isDescribed = true)
      (hargs : List.Forall₂ (Respells Keep) ws ws') :
      Respells Keep (.capitalGeneric o ws) (.generic o ws')
  | generic {o : Origin} {ws ws' : List Written} (hargs : List.Forall₂ (Respells Keep) ws ws') :
      Respells Keep (.generic o ws) (.generic o ws')
  | capitalGeneric {o : Origin} {ws ws' : List Written}
      (hargs : List.Forall₂ (Respells Keep) ws ws') :
      Respells Keep (.capitalGeneric o ws) (.capitalGeneric o ws')
  | union {ws ws' : List Written} (hargs : List.Forall₂ (Respells Keep) ws ws')
      (hkeep : ∀ hs hs', formedAll ws = .ok hs → formedAll ws' = .ok hs' →
        Keep (memberList hs) (memberList hs')) :
      Respells Keep (.union ws) (.union ws')
  | either {a b a' b' : Written} (ha : Respells Keep a a') (hb : Respells Keep b b')
      (hkeep : ∀ x y x' y', a.formed = .ok x → b.formed = .ok y → a'.formed = .ok x' →
        b'.formed = .ok y' → Keep (memberList [x, y]) (memberList [x', y'])) :
      Respells Keep (.either a b) (.either a' b')
  | classVar {w w' : Written} (hinner : Respells Keep w w') :
      Respells Keep (.classVar w) (.classVar w')
  | final {w w' : Written} (hinner : Respells Keep w w') : Respells Keep (.final w) (.final w')
  | initVar {w w' : Written} (hinner : Respells Keep w w') :
      Respells Keep (.initVar w) (.initVar w')
  | noted {w w' : Written} {note : Constant} (hinner : Respells Keep w w') :
      Respells Keep (.noted w note) (.noted w' note)

/-- Respelling some capitalised lists and dictionaries that have only lists and dictionaries above
them. The arguments of each respelled one satisfy a condition. -/
inductive OpenlyRespells (Allow : Hint → Prop) : Written → Written → Prop
  | same (w : Written) : OpenlyRespells Allow w w
  | bare {o : Origin} (ho : o.isDescribed = true) :
      OpenlyRespells Allow (.hint (.capital o)) (.hint (.cls (.builtin o.name)))
  | swapped {o : Origin} {ws ws' : List Written} (ho : o.isDescribed = true)
      (hargs : List.Forall₂ (OpenlyRespells Allow) ws ws')
      (hallowed : ∀ hs, formedAll ws = .ok hs → ∀ h ∈ hs, Allow h) :
      OpenlyRespells Allow (.capitalGeneric o ws) (.generic o ws')
  | generic {o : Origin} {ws ws' : List Written} (ho : o.isDescribed = true)
      (hargs : List.Forall₂ (OpenlyRespells Allow) ws ws') :
      OpenlyRespells Allow (.generic o ws) (.generic o ws')
  | capitalGeneric {o : Origin} {ws ws' : List Written} (ho : o.isDescribed = true)
      (hargs : List.Forall₂ (OpenlyRespells Allow) ws ws') :
      OpenlyRespells Allow (.capitalGeneric o ws) (.capitalGeneric o ws')

def Written.IsJoined (w : Written) : Prop := ∀ h, w.formed = .ok h → h.CanJoin

mutual

/-- Whether each `|` stands between types and the absent value. -/
def Written.JoinsTypes : Written → Prop
  | .hint _ => True
  | .generic _ args | .capitalGeneric _ args | .union args => allJoinTypes args
  | .either a b => (a.JoinsTypes ∧ b.JoinsTypes) ∧ a.IsJoined ∧ b.IsJoined
  | .classVar w | .final w | .initVar w | .noted w _ => w.JoinsTypes

/-- Whether each `|` of several written hints stands between types and the absent value. -/
def allJoinTypes : List Written → Prop
  | [] => True
  | w :: ws => w.JoinsTypes ∧ allJoinTypes ws

end

section Categories

mutual

/-- What is formed after respelling differs in spelling only; it is formed if each `|` joins
types. -/
theorem mirrors_formed : ∀ (w : Written) {w' : Written} {h : Hint}, Respells KeepEqualities w w' →
    w.formed = .ok h → Mirrors w.JoinsTypes Respelled h w'.formed
  | .hint k, w', h, hrespells, hformed => by
    cases hformed
    cases hrespells with
    | hint => exact mirrors_ok (.same k)
    | bare ho => exact mirrors_ok (.bare ho)
  | .generic o ws, w', h, hrespells, hformed => by
    obtain ⟨hs, hhs, ⟨⟩⟩ := bind_eq_ok.mp hformed
    cases hrespells with
    | generic hargs =>
      exact (mirrors_formedAll ws hargs hhs).bind fun _ _ hs' => mirrors_ok (.generic hs')
  | .capitalGeneric o ws, w', h, hrespells, hformed => by
    obtain ⟨hs, hhs, hh⟩ := bind_eq_ok.mp hformed
    cases hrespells with
    | swapped ho hargs =>
      refine (mirrors_formedAll ws hargs hhs).bind fun hs' _ hrespelled => ?_
      obtain ⟨rfl, -⟩ := capitalOf_eq_ok hrespelled hh
      exact mirrors_ok (.swapped ho hrespelled)
    | capitalGeneric hargs =>
      refine (mirrors_formedAll ws hargs hhs).bind fun hs' _ hrespelled => ?_
      obtain ⟨rfl, hh'⟩ := capitalOf_eq_ok hrespelled hh
      rw [hh']
      exact mirrors_ok (.capitalGeneric (List.rel_map (fun _ _ hsame => hsame.argument) hrespelled))
  | .union ws, w', h, hrespells, hformed => by
    obtain ⟨hs, hhs, hh⟩ := bind_eq_ok.mp hformed
    cases hrespells with
    | union hargs hkeep =>
      refine (mirrors_formedAll ws hargs hhs).bind fun hs' hhs' hrespelled => ?_
      obtain ⟨rfl, hh'⟩ := checkedUnion_eq_ok hrespelled hh
      rw [hh']
      exact mirrors_ok (respelled_unionOf hrespelled (hkeep hs hs' hhs hhs')).1
  | .either a b, w', h, hrespells, hformed => by
    obtain ⟨x, hx, hformed⟩ := bind_eq_ok.mp hformed
    obtain ⟨y, hy, hh⟩ := bind_eq_ok.mp hformed
    cases hrespells with
    | either ha hb hkeep =>
      refine ((mirrors_formed a ha hx).imp fun hjoin => hjoin.1.1).bind fun x' hx' hxx' => ?_
      refine ((mirrors_formed b hb hy).imp fun hjoin => hjoin.1.2).bind fun y' hy' hyy' => ?_
      exact (mirrors_either hxx' hyy' (hkeep x y x' y' hx hy hx' hy') hh).imp
        fun hjoin => ⟨hjoin.2.1 x hx, hjoin.2.2 y hy⟩
  | .classVar w, w', h, hrespells, hformed => by
    obtain ⟨x, hx, hformed⟩ := bind_eq_ok.mp hformed
    obtain ⟨k, hk, ⟨⟩⟩ := bind_eq_ok.mp hformed
    cases hrespells with
    | classVar hinner =>
      exact (mirrors_formed w hinner hx).bind fun x' _ hxx' =>
        (hxx'.mirrors_checkArgument hk).bind fun _ _ hkk' => mirrors_ok (.classVar hkk')
  | .final w, w', h, hrespells, hformed => by
    obtain ⟨x, hx, hformed⟩ := bind_eq_ok.mp hformed
    obtain ⟨k, hk, ⟨⟩⟩ := bind_eq_ok.mp hformed
    cases hrespells with
    | final hinner =>
      exact (mirrors_formed w hinner hx).bind fun x' _ hxx' =>
        (hxx'.mirrors_checkArgument hk).bind fun _ _ hkk' => mirrors_ok (.final hkk')
  | .initVar w, w', h, hrespells, hformed => by
    obtain ⟨x, hx, ⟨⟩⟩ := bind_eq_ok.mp hformed
    cases hrespells with
    | initVar hinner =>
      exact (mirrors_formed w hinner hx).bind fun x' _ hxx' => mirrors_ok (.initVar hxx')
  | .noted w note, w', h, hrespells, hformed => by
    obtain ⟨x, hx, hh⟩ := bind_eq_ok.mp hformed
    cases hrespells with
    | noted hinner =>
      refine (mirrors_formed w hinner hx).bind fun x' _ hxx' => ?_
      obtain ⟨k', hk', hkk'⟩ := hxx'.noted hh
      rw [hk']
      exact mirrors_ok hkk'

theorem mirrors_formedAll : ∀ (ws : List Written) {ws' : List Written} {hs : List Hint},
    List.Forall₂ (Respells KeepEqualities) ws ws' → formedAll ws = .ok hs →
    Mirrors (allJoinTypes ws) (List.Forall₂ Respelled) hs (formedAll ws')
  | [], ws', hs, hrespells, hformed => by
    cases hformed
    cases hrespells
    exact mirrors_ok .nil
  | w :: ws, ws', hs, hrespells, hformed => by
    obtain ⟨x, xs, hx, hxs, rfl⟩ := formedAll_cons.mp hformed
    cases hrespells with
    | cons hfirst hrest =>
      refine ((mirrors_formed w hfirst hx).imp And.left).bind fun x' _ hxx' => ?_
      exact ((mirrors_formedAll ws hrest hxs).imp And.right).bind fun xs' _ hxs' =>
        mirrors_ok (.cons hxx' hxs')

end

end Categories

section Descriptions

def DescribedAlike (r : Registry) (h h' : Hint) : Prop :=
  Respelled h h' ∧ h'.describe r = h.describe r

theorem DescribedAlike.argument (hsame : DescribedAlike r h h') :
    DescribedAlike r h.argument h'.argument := by
  refine ⟨hsame.1.argument, ?_⟩
  rcases hsame.1.argument_eq with rfl | ⟨hh, hh'⟩
  · rfl
  · rw [hh, hh', hsame.2]

theorem describeAll_eq {hs hs' : List Hint} (hsame : List.Forall₂ (DescribedAlike r) hs hs') :
    describeAll r hs' = describeAll r hs := by
  induction hsame with
  | nil => rfl
  | cons hfirst _ ih => rw [describeAll, describeAll, hfirst.2, ih]

theorem describe_container (ho : o.isDescribed = true) {hs hs' : List Hint}
    (hargs : describeAll r hs' = describeAll r hs) :
    (Hint.generic o hs').describe r = (Hint.generic o hs).describe r ∧
      (Hint.generic o hs').describe r = (Hint.capitalGeneric o hs).describe r ∧
      (Hint.capitalGeneric o hs').describe r = (Hint.capitalGeneric o hs).describe r := by
  cases o with
  | list | dict => simp only [Hint.describe, hargs, and_self]
  | _ => cases ho

mutual

theorem formed_openly : ∀ (w : Written) {w' : Written} {h : Hint},
    OpenlyRespells (fun a => a.argument = a) w w' → w.formed = .ok h →
    ∃ h', w'.formed = .ok h' ∧ DescribedAlike r h h'
  | .hint k, w', h, hrespells, hformed => by
    cases hrespells with
    | same => exact ⟨h, hformed, .same h, rfl⟩
    | bare ho =>
      cases hformed
      exact ⟨_, rfl, .bare ho, describe_bare ho⟩
  | .generic o ws, w', h, hrespells, hformed => by
    cases hrespells with
    | same => exact ⟨h, hformed, .same h, rfl⟩
    | generic ho hargs =>
      obtain ⟨hs, hhs, ⟨⟩⟩ := bind_eq_ok.mp hformed
      obtain ⟨hs', hhs', hsame⟩ := formedAll_openly ws hargs hhs
      exact ⟨_, bind_eq_ok.mpr ⟨hs', hhs', rfl⟩, .generic (hsame.imp fun _ _ => And.left),
        (describe_container ho (describeAll_eq hsame)).1⟩
  | .capitalGeneric o ws, w', h, hrespells, hformed => by
    cases hrespells with
    | same => exact ⟨h, hformed, .same h, rfl⟩
    | swapped ho hargs hallowed =>
      obtain ⟨hs, hhs, hh⟩ := bind_eq_ok.mp hformed
      obtain ⟨hs', hhs', hsame⟩ := formedAll_openly ws hargs hhs
      have hrespelled := hsame.imp fun _ _ => And.left
      obtain ⟨rfl, -⟩ := capitalOf_eq_ok hrespelled hh
      refine ⟨_, bind_eq_ok.mpr ⟨hs', hhs', rfl⟩, .swapped ho hrespelled, ?_⟩
      rw [List.map_congr_left (hallowed hs hhs), List.map_id']
      exact (describe_container ho (describeAll_eq hsame)).2.1
    | capitalGeneric ho hargs =>
      obtain ⟨hs, hhs, hh⟩ := bind_eq_ok.mp hformed
      obtain ⟨hs', hhs', hsame⟩ := formedAll_openly ws hargs hhs
      obtain ⟨rfl, hh'⟩ := capitalOf_eq_ok (hsame.imp fun _ _ => And.left) hh
      have harguments : List.Forall₂ (DescribedAlike r) (hs.map argument) (hs'.map argument) :=
        List.rel_map (fun _ _ hsame => hsame.argument) hsame
      exact ⟨_, bind_eq_ok.mpr ⟨hs', hhs', hh'⟩,
        .capitalGeneric (harguments.imp fun _ _ => And.left),
        (describe_container ho (describeAll_eq harguments)).2.2⟩
  | .union _, w', h, hrespells, hformed | .either _ _, w', h, hrespells, hformed
  | .classVar _, w', h, hrespells, hformed | .final _, w', h, hrespells, hformed
  | .initVar _, w', h, hrespells, hformed | .noted _ _, w', h, hrespells, hformed => by
    cases hrespells
    exact ⟨h, hformed, .same h, rfl⟩

theorem formedAll_openly : ∀ (ws : List Written) {ws' : List Written} {hs : List Hint},
    List.Forall₂ (OpenlyRespells fun a => a.argument = a) ws ws' → formedAll ws = .ok hs →
    ∃ hs', formedAll ws' = .ok hs' ∧ List.Forall₂ (DescribedAlike r) hs hs'
  | [], ws', hs, hrespells, hformed => by
    cases hformed
    cases hrespells
    exact ⟨[], rfl, .nil⟩
  | w :: ws, ws', hs, hrespells, hformed => by
    obtain ⟨x, xs, hx, hxs, rfl⟩ := formedAll_cons.mp hformed
    cases hrespells with
    | cons hfirst hrest =>
      obtain ⟨x', hx', hxx'⟩ := formed_openly w hfirst hx
      obtain ⟨xs', hxs', hsame⟩ := formedAll_openly ws hrest hxs
      exact ⟨x' :: xs', formedAll_cons.mpr ⟨x', xs', hx', hxs', rfl⟩, .cons hxx' hsame⟩

end

end Descriptions

end StructForge.Live

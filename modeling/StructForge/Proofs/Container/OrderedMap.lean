import StructForge.Proofs.Container.Entries
import StructForge.Proofs.Container.Keys
import StructForge.Proofs.Container.Release

/-! # Maps as lists of entries

A map answers any calls as a list of entries does that holds every key once. New entries go to its
end, the value of a key that is there stays, and a list that is given up refuses every further call
that needs it. -/

namespace StructForge.Container

open Live

/-! ## Lists of entries -/

section Reference

variable {κ : Type} [Key κ]

abbrev Entries (κ : Type) := List (κ × Value)

def Lists (es : Entries κ) (k : κ) : Prop := ∃ e ∈ es, Key.isFor e.1 k = true

/-- What a call makes of a list of entries, none after it is given up, and what it is answered. The
capacity and the written form of a list are left open. -/
inductive Answer :
    Option (Entries κ) → MapCall κ → Option (Entries κ) → Except Fault (MapReply κ) → Prop
  | added {es : Entries κ} {k : κ} {v : Value} (h : ¬Lists es k) :
      Answer (some es) (.add k v) (some (es ++ [(k, v)])) (.ok .nothing)
  | duplicate {es : Entries κ} {k : κ} {v : Value} (h : Lists es k) :
      Answer (some es) (.add k v) (some es) (.error (duplicateFault k))
  | taken {es : Entries κ} {k : κ} {v : Value} (h : ¬Lists es k) :
      Answer (some es) (.tryAdd k v) (some (es ++ [(k, v)])) (.ok (.truth true))
  | kept {es : Entries κ} {k : κ} {v : Value} (h : Lists es k) :
      Answer (some es) (.tryAdd k v) (some es) (.ok (.truth false))
  | found {es : Entries κ} {e : κ × Value} {k : κ} (he : e ∈ es) (hk : Key.isFor e.1 k = true) :
      Answer (some es) (.get k) (some es) (.ok (.value e.2))
  | missing {es : Entries κ} {k : κ} (h : ¬Lists es k) :
      Answer (some es) (.get k) (some es) (.error (missingFault k))
  | foundInstead {es : Entries κ} {e : κ × Value} {k : κ} {v : Value} (he : e ∈ es)
      (hk : Key.isFor e.1 k = true) : Answer (some es) (.getD k v) (some es) (.ok (.value e.2))
  | fallback {es : Entries κ} {k : κ} {v : Value} (h : ¬Lists es k) :
      Answer (some es) (.getD k v) (some es) (.ok (.value v))
  | removed {es before after : Entries κ} {e : κ × Value} {k : κ}
      (hes : es = before ++ e :: after) (hk : Key.isFor e.1 k = true) :
      Answer (some es) (.remove k) (some (before ++ after)) (.ok (.truth true))
  | absent {es : Entries κ} {k : κ} (h : ¬Lists es k) :
      Answer (some es) (.remove k) (some es) (.ok (.truth false))
  | contained {es : Entries κ} {k : κ} (h : Lists es k) :
      Answer (some es) (.contains k) (some es) (.ok (.truth true))
  | notContained {es : Entries κ} {k : κ} (h : ¬Lists es k) :
      Answer (some es) (.contains k) (some es) (.ok (.truth false))
  | cleared (es : Entries κ) : Answer (some es) .clear (some []) (.ok .nothing)
  | entries (es : Entries κ) :
      Answer (some es) .entries (some es) (.ok (.entries es))
  | keys (es : Entries κ) : Answer (some es) .keys (some es) (.ok (.keys (es.map (·.1))))
  | values (es : Entries κ) : Answer (some es) .values (some es) (.ok (.values (es.map (·.2))))
  | size (es : Entries κ) : Answer (some es) .size (some es) (.ok (.count es.length))
  | capacity (es : Entries κ) (v : Value) : Answer (some es) .capacity (some es) (.ok (.value v))
  | isCreated (es : Entries κ) : Answer (some es) .isCreated (some es) (.ok (.truth true))
  | shown (state : Option (Entries κ)) (s : String) : Answer state .shown state (.ok (.text s))
  | disposed (es : Entries κ) : Answer (some es) .dispose none (.ok .nothing)
  | refused {call : MapCall κ} (h : call.isAccess = true) :
      Answer none call none (.error (disposedFault "NativeHashMap"))
  | notCreated : Answer none .isCreated none (.ok (.truth false))

inductive Answers :
    Option (Entries κ) → List (MapCall κ) → Option (Entries κ) → List (Except Fault (MapReply κ)) → Prop
  | nil (state : Option (Entries κ)) : Answers state [] state []
  | cons {state state' last : Option (Entries κ)} {call : MapCall κ} {calls : List (MapCall κ)}
      {reply : Except Fault (MapReply κ)} {replies : List (Except Fault (MapReply κ))}
      (hcall : Answer state call state' reply) (hcalls : Answers state' calls last replies) :
      Answers state (call :: calls) last (reply :: replies)

def MapCall.key? : MapCall κ → Option κ
  | .add k _ | .tryAdd k _ | .getD k _ | .get k | .remove k | .contains k => some k
  | _ => none

/-- A call about one of some keys, or about none. -/
def MapCall.IsKeyed (P : κ → Prop) (call : MapCall κ) : Prop := ∀ k, call.key? = some k → P k

def MapCall.isOfEntries : MapCall κ → Bool
  | .capacity | .shown => false
  | _ => true

/-- Entries with some keys, none of which is there twice. -/
structure AreEntries (P : κ → Prop) (es : Entries κ) : Prop where
  keys : ∀ e ∈ es, P e.1
  distinct : es.Pairwise fun e e' => ¬Key.isFor e.1 e'.1 = true

end Reference

section Lists

variable {κ : Type} [Key κ] {P : κ → Prop} {es es' before after before' after' : Entries κ}
  {e e' : κ × Value} {k : κ} {v : Value} {call : MapCall κ}
  {state state' state'' last last' : Option (Entries κ)} {reply reply' : Except Fault (MapReply κ)}
  {calls : List (MapCall κ)} {replies replies' : List (Except Fault (MapReply κ))}

theorem AreEntries.nil : AreEntries P [] := ⟨by simp, .nil⟩

theorem AreEntries.concat (h : AreEntries P es) (hk : P k) (hnew : ¬Lists es k) :
    AreEntries P (es ++ [(k, v)]) := by
  refine ⟨fun e he => ?_, ?_⟩
  · rcases List.mem_append.mp he with he | he
    · exact h.keys e he
    · obtain rfl := List.mem_singleton.mp he
      exact hk
  · rw [List.pairwise_append]
    refine ⟨h.distinct, List.pairwise_singleton _ _, fun e he e' he' hsame => ?_⟩
    obtain rfl := List.mem_singleton.mp he'
    exact hnew ⟨e, he, hsame⟩

theorem AreEntries.sublist (h : AreEntries P es) (hsub : es'.Sublist es) : AreEntries P es' :=
  ⟨fun e he => h.keys e (hsub.subset he), h.distinct.sublist hsub⟩

theorem AreEntries.split_unique (hP : AreKeys P) (hkey : P k)
    (h : AreEntries P (before ++ e :: after)) (hk : Key.isFor e.1 k = true)
    (hk' : Key.isFor e'.1 k = true) (heq : before ++ e :: after = before' ++ e' :: after') :
    before = before' ∧ e = e' ∧ after = after' := by
  have he : P e.1 := h.keys e (by simp)
  have he' : P e'.1 := h.keys e' (by rw [heq]; simp)
  have hsame := hP.trans _ _ _ he hkey he' hk (hP.symm _ _ he' hkey hk')
  rcases List.append_eq_append_iff.mp heq with ⟨between, rfl, hrest⟩ | ⟨between, rfl, hrest⟩
  · cases between with
    | nil =>
      rw [List.nil_append, List.cons.injEq] at hrest
      exact ⟨(List.append_nil _).symm, hrest⟩
    | cons first between =>
      rw [List.cons_append, List.cons.injEq] at hrest
      obtain ⟨rfl, rfl⟩ := hrest
      have hpair := (List.pairwise_append.mp h.distinct).2.1
      exact absurd hsame (List.rel_of_pairwise_cons hpair (by simp))
  · cases between with
    | nil =>
      rw [List.nil_append, List.cons.injEq] at hrest
      exact ⟨List.append_nil _, hrest.1.symm, hrest.2.symm⟩
    | cons first between =>
      rw [List.cons_append, List.cons.injEq] at hrest
      obtain ⟨rfl, rfl⟩ := hrest
      rw [List.append_assoc] at h
      have hpair := (List.pairwise_append.mp h.distinct).2.1
      exact absurd (hP.symm _ _ he he' hsame) (List.rel_of_pairwise_cons hpair (by simp))

theorem AreEntries.eq_of_isFor (hP : AreKeys P) (hkey : P k) (h : AreEntries P es) (he : e ∈ es)
    (he' : e' ∈ es) (hk : Key.isFor e.1 k = true) (hk' : Key.isFor e'.1 k = true) : e = e' := by
  obtain ⟨before, after, rfl⟩ := List.append_of_mem he
  obtain ⟨before', after', heq⟩ := List.append_of_mem he'
  exact (h.split_unique hP hkey hk hk' heq).2.1

theorem Answer.areEntries (h : Answer state call state' reply)
    (hes : ∀ es ∈ state, AreEntries P es) (hcall : call.IsKeyed P) :
    ∀ es ∈ state', AreEntries P es := by
  rintro es ⟨⟩
  cases h with
  | added hnew => exact (hes _ rfl).concat (hcall _ rfl) hnew
  | taken hnew => exact (hes _ rfl).concat (hcall _ rfl) hnew
  | removed hsplit =>
    subst hsplit
    exact (hes _ rfl).sublist (by simp)
  | cleared => exact .nil
  | _ => exact hes _ rfl

theorem Answer.unique (hP : AreKeys P) (h : Answer state call state' reply)
    (h' : Answer state call state'' reply') (hes : ∀ es ∈ state, AreEntries P es)
    (hkeyed : call.IsKeyed P) (hcall : call.isOfEntries = true) :
    state' = state'' ∧ reply = reply' := by
  cases h with
  | found he hk =>
    cases h' with
    | found he' hk' =>
      rw [(hes _ rfl).eq_of_isFor hP (hkeyed _ rfl) he he' hk hk']
      exact ⟨rfl, rfl⟩
    | missing hnot => exact absurd ⟨_, he, hk⟩ hnot
  | foundInstead he hk =>
    cases h' with
    | foundInstead he' hk' =>
      rw [(hes _ rfl).eq_of_isFor hP (hkeyed _ rfl) he he' hk hk']
      exact ⟨rfl, rfl⟩
    | fallback hnot => exact absurd ⟨_, he, hk⟩ hnot
  | removed hsplit hk =>
    subst hsplit
    cases h' with
    | removed hsplit' hk' =>
      obtain ⟨rfl, -, rfl⟩ := (hes _ rfl).split_unique hP (hkeyed _ rfl) hk hk' hsplit'
      exact ⟨rfl, rfl⟩
    | absent hnot => exact absurd ⟨_, List.mem_append_right _ List.mem_cons_self, hk⟩ hnot
  | missing hnot =>
    cases h' with
    | found he hk => exact absurd ⟨_, he, hk⟩ hnot
    | missing => exact ⟨rfl, rfl⟩
  | fallback hnot =>
    cases h' with
    | foundInstead he hk => exact absurd ⟨_, he, hk⟩ hnot
    | fallback => exact ⟨rfl, rfl⟩
  | absent hnot =>
    cases h' with
    | removed hsplit hk =>
      exact absurd ⟨_, hsplit ▸ List.mem_append_right _ List.mem_cons_self, hk⟩ hnot
    | absent => exact ⟨rfl, rfl⟩
  | capacity | shown => cases hcall
  | refused haccess =>
    cases h' with
    | refused => exact ⟨rfl, rfl⟩
    | shown | notCreated => cases haccess
  | _ => cases h' <;> first | exact ⟨rfl, rfl⟩ | contradiction

theorem Answers.unique (hP : AreKeys P) (h : Answers state calls last replies)
    (h' : Answers state calls last' replies') (hes : ∀ es ∈ state, AreEntries P es)
    (hkeyed : ∀ call ∈ calls, call.IsKeyed P) (hcalls : ∀ call ∈ calls, call.isOfEntries = true) :
    last = last' ∧ replies = replies' := by
  induction h generalizing replies' with
  | nil =>
    cases h'
    exact ⟨rfl, rfl⟩
  | cons hcall _ ih =>
    cases h' with
    | cons hcall' hrest' =>
      obtain ⟨rfl, rfl⟩ := hcall.unique hP hcall' hes (hkeyed _ List.mem_cons_self)
        (hcalls _ List.mem_cons_self)
      obtain ⟨hlast, hreplies⟩ := ih hrest' (hcall.areEntries hes (hkeyed _ List.mem_cons_self))
        (fun c hc => hkeyed c (List.mem_cons_of_mem _ hc))
        (fun c hc => hcalls c (List.mem_cons_of_mem _ hc))
      exact ⟨hlast, congrArg _ hreplies⟩

theorem Answers.areEntries (h : Answers state calls last replies)
    (hes : ∀ es ∈ state, AreEntries P es) (hcalls : ∀ call ∈ calls, call.IsKeyed P) :
    ∀ es ∈ last, AreEntries P es := by
  induction h with
  | nil => exact hes
  | cons hcall _ ih =>
    exact ih (hcall.areEntries hes (hcalls _ List.mem_cons_self))
      fun c hc => hcalls c (List.mem_cons_of_mem _ hc)

end Lists

/-! ## Maps -/

def IsCapacity (v : Value) : Prop :=
  ∃ a q, v.numeric? = some a ∧ a.quantity? = some q ∧ q.IsNonNegative

theorem checkNonNegative_of_isCapacity {what : String} {v : Value} (h : IsCapacity v) :
    checkNonNegative what v = .ok () := by
  obtain ⟨a, q, ha, hq, hnonneg⟩ := h
  unfold checkNonNegative
  rw [ha]
  cases a with
  | whole i =>
    cases hq
    have hi : ¬i < 0 := not_lt.mpr (Int.cast_nonneg_iff.mp hnonneg)
    simp [hi]
  | real x => simp [Number.Binary.ltInt_zero hq hnonneg]

namespace GrowingMap

variable {κ : Type} [Key κ]

/-- Makes a call; a map that refuses it stays as it is. -/
def answer (m : GrowingMap κ) (call : MapCall κ) : GrowingMap κ × Except Fault (MapReply κ) :=
  match m.run call with
  | .ok (m', v) => (m', .ok v)
  | .error f => (m, .error f)

def answers (m : GrowingMap κ) :
    List (MapCall κ) → GrowingMap κ × List (Except Fault (MapReply κ))
  | [] => (m, [])
  | call :: calls =>
    let (m', reply) := m.answer call
    let (last, replies) := m'.answers calls
    (last, reply :: replies)

def Follows (m : GrowingMap κ) (call : MapCall κ) : Prop :=
  Answer m.entries call (m.answer call).1.entries (m.answer call).2

variable {P : κ → Prop} {m m' : GrowingMap κ} {es : Entries κ} {k : κ} {v capacity : Value}
  {reply : MapReply κ} {call : MapCall κ} {calls : List (MapCall κ)} {a : Allocator} {f : Fault}

theorem answer_ok (h : m.run call = .ok (m', reply)) : m.answer call = (m', .ok reply) := by
  unfold answer
  rw [h]

theorem answer_error (h : m.run call = .error f) : m.answer call = (m, .error f) := by
  unfold answer
  rw [h]

theorem follows_of_ok (hentries : m.entries = some es) (hrun : m.run call = .ok (m', reply))
    (h : Answer (some es) call m'.entries (.ok reply)) : m.Follows call := by
  unfold Follows
  rw [answer_ok hrun, hentries]
  exact h

theorem follows_of_error (hentries : m.entries = some es) (hrun : m.run call = .error f)
    (h : Answer (some es) call (some es) (.error f)) : m.Follows call := by
  unfold Follows
  rw [answer_error hrun, hentries]
  exact h

theorem hasKey_iff : hasKey es k = true ↔ Lists es k := by
  unfold hasKey
  rw [List.any_eq_true]
  rfl

theorem valueAt?_of_lists (h : Lists es k) :
    ∃ e ∈ es, Key.isFor e.1 k = true ∧ valueAt? es k = some e.2 := by
  obtain ⟨e, hfind⟩ := Option.isSome_iff_exists.mp (List.find?_isSome.mpr h)
  obtain ⟨hfor, before, after, rfl, -⟩ := List.find?_eq_some_iff_append.mp hfind
  refine ⟨e, List.mem_append_right _ List.mem_cons_self, hfor, ?_⟩
  unfold valueAt?
  rw [hfind]
  rfl

theorem valueAt?_of_not_lists (h : ¬Lists es k) : valueAt? es k = none :=
  Option.map_eq_none_iff.mpr (List.find?_eq_none.mpr fun e he hfor => h ⟨e, he, hfor⟩)

theorem eraseP_of_lists (h : Lists es k) :
    ∃ before e after, es = before ++ e :: after ∧ Key.isFor e.1 k = true ∧
      (es.eraseP fun e => Key.isFor e.1 k) = before ++ after := by
  obtain ⟨before, e, after, rfl, hbefore, hfor⟩ := exists_first h
  refine ⟨before, e, after, rfl, hfor, ?_⟩
  rw [List.eraseP_append_right _ hbefore, List.eraseP_cons_of_pos (by exact hfor)]

section Keyed

variable (hentries : m.entries = some es) (hk : Key.unhashable? k = none)
include hentries hk

theorem tryAdd_of_lists (h : Lists es k) : m.tryAdd k v = .ok (m, false) := by
  rw [tryAdd_eq hentries hk, hasKey_iff.mpr h, if_pos rfl]

/-- An entry with a new key goes to the end. -/
theorem tryAdd_of_not_lists (h : ¬Lists es k) :
    ∃ m', m.tryAdd k v = .ok (m', true) ∧ m'.entries = some (es ++ [(k, v)]) := by
  rw [tryAdd_eq hentries hk, if_neg (mt hasKey_iff.mp h)]
  exact ⟨_, rfl, rfl⟩

theorem run_tryAdd_of_lists (h : Lists es k) : m.run (.tryAdd k v) = .ok (m, .truth false) := by
  change (m.tryAdd k v >>= _) = _
  rw [tryAdd_of_lists hentries hk h]
  rfl

theorem run_add_of_lists (h : Lists es k) : m.run (.add k v) = .error (duplicateFault k) := by
  change ((m.tryAdd k v >>= _) >>= _) = _
  rw [tryAdd_of_lists hentries hk h]
  rfl

theorem run_get_of_not_lists (h : ¬Lists es k) : m.run (.get k) = .error (missingFault k) := by
  change (m.get k >>= _) = _
  rw [get_of_none hentries hk (valueAt?_of_not_lists h)]
  rfl

theorem follows_tryAdd : m.Follows (.tryAdd k v) := by
  by_cases h : Lists es k
  · exact follows_of_ok hentries (run_tryAdd_of_lists hentries hk h) (hentries ▸ .kept h)
  · obtain ⟨m', htry, hentries'⟩ := tryAdd_of_not_lists (v := v) hentries hk h
    have hrun : m.run (.tryAdd k v) = .ok (m', .truth true) := by
      change (m.tryAdd k v >>= _) = _
      rw [htry]
      rfl
    exact follows_of_ok hentries hrun (hentries' ▸ .taken h)

theorem follows_add : m.Follows (.add k v) := by
  by_cases h : Lists es k
  · exact follows_of_error hentries (run_add_of_lists hentries hk h) (.duplicate h)
  · obtain ⟨m', htry, hentries'⟩ := tryAdd_of_not_lists (v := v) hentries hk h
    have hrun : m.run (.add k v) = .ok (m', .nothing) := by
      change ((m.tryAdd k v >>= _) >>= _) = _
      rw [htry]
      rfl
    exact follows_of_ok hentries hrun (hentries' ▸ .added h)

theorem follows_get : m.Follows (.get k) := by
  by_cases h : Lists es k
  · obtain ⟨e, he, hsame, hvalue⟩ := valueAt?_of_lists h
    have hrun : m.run (.get k) = .ok (m, .value e.2) := by
      change (m.get k >>= _) = _
      rw [get_of_some hentries hk hvalue]
      rfl
    exact follows_of_ok hentries hrun (hentries ▸ .found he hsame)
  · exact follows_of_error hentries (run_get_of_not_lists hentries hk h) (.missing h)

theorem follows_getD : m.Follows (.getD k v) := by
  have hrun : m.run (.getD k v) = .ok (m, .value ((valueAt? es k).getD v)) := by
    change (m.getD k v >>= _) = _
    rw [getD_eq hentries hk]
    rfl
  by_cases h : Lists es k
  · obtain ⟨e, he, hsame, hvalue⟩ := valueAt?_of_lists h
    rw [hvalue] at hrun
    exact follows_of_ok hentries hrun (hentries ▸ .foundInstead he hsame)
  · rw [valueAt?_of_not_lists h] at hrun
    exact follows_of_ok hentries hrun (hentries ▸ .fallback h)

theorem follows_contains : m.Follows (.contains k) := by
  have hrun : m.run (.contains k) = .ok (m, .truth (hasKey es k)) := by
    change (m.contains k >>= _) = _
    rw [contains_eq hentries hk]
    rfl
  have hiff : hasKey es k = true ↔ Lists es k := hasKey_iff
  cases hhas : hasKey es k with
  | true =>
    rw [hhas] at hrun hiff
    exact follows_of_ok hentries hrun (hentries ▸ .contained (hiff.mp rfl))
  | false =>
    rw [hhas] at hrun hiff
    exact follows_of_ok hentries hrun (hentries ▸ .notContained (mt hiff.mpr Bool.false_ne_true))

theorem follows_remove : m.Follows (.remove k) := by
  have hremove := remove_eq hentries hk
  by_cases h : Lists es k
  · rw [if_pos (hasKey_iff.mpr h)] at hremove
    obtain ⟨before, e, after, hsplit, hsame, herase⟩ := eraseP_of_lists h
    rw [herase] at hremove
    have hrun : m.run (.remove k) =
        .ok ({ m with entries := some (before ++ after) }, .truth true) := by
      change (m.remove k >>= _) = _
      rw [hremove]
      rfl
    exact follows_of_ok hentries hrun (.removed hsplit hsame)
  · rw [if_neg (mt hasKey_iff.mp h)] at hremove
    have hrun : m.run (.remove k) = .ok (m, .truth false) := by
      change (m.remove k >>= _) = _
      rw [hremove]
      rfl
    exact follows_of_ok hentries hrun (hentries ▸ .absent h)

end Keyed

/-- A map without storage answers as a list that is given up does. -/
theorem follows_of_released (hentries : m.entries = none) : m.Follows call := by
  have hreleased : m.isCreated = false := by
    unfold isCreated
    rw [hentries]
    rfl
  cases haccess : call.isAccess with
  | true =>
    unfold Follows
    rw [answer_error (run_of_released hreleased haccess), hentries]
    exact .refused haccess
  | false =>
    cases call with
    | isCreated =>
      have hrun : m.run .isCreated = .ok (m, .truth false) := by
        change Except.ok (m, MapReply.truth m.isCreated) = _
        rw [hreleased]
      unfold Follows
      rw [answer_ok hrun, hentries]
      exact .notCreated
    | shown => exact .shown _ _
    | _ => cases haccess

theorem follows (hP : AreKeys P) (hcall : call.IsKeyed P) : m.Follows call := by
  cases hentries : m.entries with
  | none => exact follows_of_released hentries
  | some es =>
    have hhash (k : κ) (hk : call.key? = some k) : Key.unhashable? k = none :=
      hP.hashable k (hcall k hk)
    have hrequire : m.require = .ok es := by
      unfold require
      rw [hentries]
    cases call with
    | add k v => exact follows_add hentries (hhash k rfl)
    | tryAdd k v => exact follows_tryAdd hentries (hhash k rfl)
    | getD k v => exact follows_getD hentries (hhash k rfl)
    | get k => exact follows_get hentries (hhash k rfl)
    | remove k => exact follows_remove hentries (hhash k rfl)
    | contains k => exact follows_contains hentries (hhash k rfl)
    | clear =>
      have hrun : m.run .clear = .ok ({ m with entries := some [] }, .nothing) := by
        simp only [run, clear, hrequire]
        rfl
      exact follows_of_ok hentries hrun (.cleared es)
    | entries =>
      have hrun : m.run .entries = .ok (m, .entries es) := by
        simp only [run, hrequire]
        rfl
      exact follows_of_ok hentries hrun (hentries ▸ .entries es)
    | keys =>
      have hrun : m.run .keys = .ok (m, .keys (es.map (·.1))) := by
        simp only [run, hrequire]
        rfl
      exact follows_of_ok hentries hrun (hentries ▸ .keys es)
    | values =>
      have hrun : m.run .values = .ok (m, .values (es.map (·.2))) := by
        simp only [run, hrequire]
        rfl
      exact follows_of_ok hentries hrun (hentries ▸ .values es)
    | size =>
      have hrun : m.run .size = .ok (m, .count es.length) := by
        simp only [run, size, hrequire]
        rfl
      exact follows_of_ok hentries hrun (hentries ▸ .size es)
    | capacity =>
      have hrun : m.run .capacity = .ok (m, .value m.capacity) := by
        simp only [run, capacity?, hrequire]
        rfl
      exact follows_of_ok hentries hrun (hentries ▸ .capacity es _)
    | isCreated =>
      have hrun : m.run .isCreated = .ok (m, .truth true) := by
        simp only [run, isCreated, hentries]
        rfl
      exact follows_of_ok hentries hrun (hentries ▸ .isCreated es)
    | shown => exact follows_of_ok hentries rfl (hentries ▸ .shown _ _)
    | dispose =>
      have hrun : m.run .dispose =
          .ok ({ m with allocator := .none, capacity := .int 0, entries := none }, .nothing) := by
        simp only [run, dispose, hrequire]
        rfl
      exact follows_of_ok hentries hrun (.disposed es)

end GrowingMap

end StructForge.Container

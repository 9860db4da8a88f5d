import Mathlib.Data.List.Forall2

/-! # Chains of steps and tables of names

A chain of steps that may fail ends well exactly when each step does, from the state that the steps
before it left. In a table of names the first entry of a name counts. -/

namespace StructForge

theorem bind_eq_ok {ε α β : Type} {x : Except ε α} {f : α → Except ε β} {b : β} :
    (x >>= f) = .ok b ↔ ∃ a, x = .ok a ∧ f a = .ok b := by
  cases x with
  | error e => simp [bind, Except.bind]
  | ok a => simp [bind, Except.bind]

theorem bind_eq_error {ε α β : Type} {x : Except ε α} {f : α → Except ε β} {e : ε} :
    (x >>= f) = .error e ↔ x = .error e ∨ ∃ a, x = .ok a ∧ f a = .error e := by
  cases x with
  | error e => simp [bind, Except.bind]
  | ok a => simp [bind, Except.bind]

theorem ok_bind {ε α β : Type} (a : α) (f : α → Except ε β) : (.ok a >>= f) = f a := rfl

theorem pure_eq_ok {ε α : Type} {a b : α} : (pure a : Except ε α) = .ok b ↔ a = b := by
  simp [pure, Except.pure]

/-- What a computation that ends well gives has a property that can be checked on it. -/
theorem exists_of_any {ε α : Type} {x : Except ε α} {p : α → Prop} [DecidablePred p]
    (h : (x.toOption.any fun a => decide (p a)) = true) : ∃ a, x = .ok a ∧ p a := by
  cases x with
  | error e => cases h
  | ok a => exact ⟨a, rfl, of_decide_eq_true h⟩

theorem eq_mk_of_fst_eq {α β : Type} {x : α × β} {a : α} (h : x.1 = a) : x = (a, x.2) :=
  Prod.ext h rfl

theorem mapM_cons_eq_ok {ε α β : Type} {f : α → Except ε β} {x : α} {xs : List α} {ys : List β} :
    (x :: xs).mapM f = .ok ys ↔ ∃ y zs, f x = .ok y ∧ xs.mapM f = .ok zs ∧ y :: zs = ys := by
  rw [List.mapM_cons]
  simp only [bind_eq_ok, pure_eq_ok]
  constructor
  · rintro ⟨y, hy, zs, hzs, rfl⟩
    exact ⟨y, zs, hy, hzs, rfl⟩
  · rintro ⟨y, zs, hy, hzs, rfl⟩
    exact ⟨y, hy, zs, hzs, rfl⟩

/-- A list is treated well exactly when each of its items is. -/
theorem mapM_eq_ok {ε α β : Type} {f : α → Except ε β} {xs : List α} {ys : List β} :
    xs.mapM f = .ok ys ↔ List.Forall₂ (fun x y => f x = .ok y) xs ys := by
  induction xs generalizing ys with
  | nil =>
    rw [List.mapM_nil, pure_eq_ok, List.forall₂_nil_left_iff]
    exact eq_comm
  | cons x xs ih =>
    rw [mapM_cons_eq_ok, List.forall₂_cons_left_iff]
    simp only [ih, eq_comm]

theorem mapM_eq_ok_map {ε α β : Type} {f : α → Except ε β} {g : α → β} {xs : List α}
    (h : ∀ x ∈ xs, f x = .ok (g x)) : xs.mapM f = .ok (xs.map g) := by
  rw [mapM_eq_ok, List.forall₂_map_right_iff, List.forall₂_same]
  exact h

theorem mapM_congr {ε α β : Type} {f g : α → Except ε β} {xs : List α}
    (h : ∀ x ∈ xs, f x = g x) : xs.mapM f = xs.mapM g := by
  induction xs with
  | nil => rfl
  | cons x xs ih =>
    rw [List.mapM_cons, List.mapM_cons, h x List.mem_cons_self,
      ih fun y hy => h y (List.mem_cons_of_mem _ hy)]

theorem exists_mapM_eq_error {ε α β : Type} {f : α → Except ε β} {xs : List α} {P : ε → Prop}
    (hall : ∀ x ∈ xs, (∃ b, f x = .ok b) ∨ ∃ e, f x = .error e ∧ P e)
    (hfail : ∃ x ∈ xs, ∃ e, f x = .error e) : ∃ e, xs.mapM f = .error e ∧ P e := by
  induction xs with
  | nil =>
    obtain ⟨x, hx, -⟩ := hfail
    cases hx
  | cons y ys ih =>
    rw [List.mapM_cons]
    rcases hall y List.mem_cons_self with ⟨b, hb⟩ | ⟨e, he, hP⟩
    · have hrest : ∃ x ∈ ys, ∃ e, f x = .error e := by
        obtain ⟨x, hx, e, he⟩ := hfail
        rcases List.mem_cons.mp hx with rfl | hx
        · rw [hb] at he
          cases he
        · exact ⟨x, hx, e, he⟩
      obtain ⟨e, he, hP⟩ := ih (fun x hx => hall x (List.mem_cons_of_mem _ hx)) hrest
      rw [hb, he]
      exact ⟨e, rfl, hP⟩
    · rw [he]
      exact ⟨e, rfl, hP⟩

/-- A list fails as the first of its items that fails. -/
theorem exists_of_mapM_eq_error {ε α β : Type} {f : α → Except ε β} {xs : List α} {e : ε}
    (h : xs.mapM f = .error e) : ∃ before x after, xs = before ++ x :: after ∧
      (∀ y ∈ before, ∃ b, f y = .ok b) ∧ f x = .error e := by
  induction xs with
  | nil => cases h
  | cons x xs ih =>
    rw [List.mapM_cons] at h
    rcases bind_eq_error.mp h with hx | ⟨b, hx, h⟩
    · exact ⟨[], x, xs, rfl, nofun, hx⟩
    · obtain hrest | ⟨ys, -, ⟨⟩⟩ := bind_eq_error.mp h
      obtain ⟨before, y, after, rfl, hbefore, hy⟩ := ih hrest
      exact ⟨x :: before, y, after, rfl, List.forall_mem_cons.mpr ⟨⟨b, hx⟩, hbefore⟩, hy⟩

/-- A list whose items are all treated well is treated well. -/
theorem exists_mapM_eq_ok {ε α β : Type} {f : α → Except ε β} {xs : List α}
    (h : ∀ x ∈ xs, ∃ b, f x = .ok b) : ∃ ys, xs.mapM f = .ok ys := by
  induction xs with
  | nil => exact ⟨[], rfl⟩
  | cons x xs ih =>
    obtain ⟨b, hb⟩ := h x List.mem_cons_self
    obtain ⟨ys, hys⟩ := ih fun y hy => h y (List.mem_cons_of_mem _ hy)
    refine ⟨b :: ys, ?_⟩
    rw [List.mapM_cons, hb, hys]
    rfl

theorem mapError_eq_ok {ε ε' α : Type} {g : ε → ε'} {x : Except ε α} {a : α} :
    x.mapError g = .ok a ↔ x = .ok a := by
  cases x <;> simp [Except.mapError]

theorem exists_first {α : Type} {P : α → Prop} {l : List α} (h : ∃ x ∈ l, P x) :
    ∃ before x after, l = before ++ x :: after ∧ (∀ y ∈ before, ¬P y) ∧ P x := by
  classical
  have hsome : (l.find? fun x => decide (P x)).isSome := by simpa using h
  obtain ⟨x, hx⟩ := Option.isSome_iff_exists.mp hsome
  obtain ⟨hP, before, after, rfl, hbefore⟩ := List.find?_eq_some_iff_append.mp hx
  exact ⟨before, x, after, rfl, by simpa using hbefore, by simpa using hP⟩

/-- The items of a list with a key are kept as often as they are there, and no others. -/
theorem count_filter_key {α β : Type} [BEq α] [LawfulBEq α] [DecidableEq β] (key : α → β) (b : β)
    (l : List α) (a : α) :
    (l.filter fun a => key a = b).count a = if key a = b then l.count a else 0 := by
  split
  · rename_i h
    exact List.count_filter (by simpa using h)
  · rename_i h
    apply List.count_eq_zero_of_not_mem
    simp [List.mem_filter, h]

section Pairs

variable {α β : Type} {R : α → β → Prop} {xs : List α} {ys : List β}

theorem exists_mem_zip_left (h : List.Forall₂ R xs ys) {x : α} (hx : x ∈ xs) :
    ∃ y, (x, y) ∈ xs.zip ys := by
  induction h with
  | nil => cases hx
  | @cons x' y' xs ys _ _ ih =>
    rcases List.mem_cons.mp hx with rfl | hx
    · exact ⟨y', List.mem_cons_self⟩
    · obtain ⟨y, hy⟩ := ih hx
      exact ⟨y, List.mem_cons_of_mem _ hy⟩

theorem exists_mem_zip_right (h : List.Forall₂ R xs ys) {y : β} (hy : y ∈ ys) :
    ∃ x, (x, y) ∈ xs.zip ys := by
  induction h with
  | nil => cases hy
  | @cons x' y' xs ys _ _ ih =>
    rcases List.mem_cons.mp hy with rfl | hy
    · exact ⟨x', List.mem_cons_self⟩
    · obtain ⟨x, hx⟩ := ih hy
      exact ⟨x, List.mem_cons_of_mem _ hx⟩

/-- What is paired with two lists one after the other falls into two parts. -/
theorem exists_append_of_forall₂ {before after : List α} (h : List.Forall₂ R (before ++ after) ys) :
    ∃ ys₁ ys₂, List.Forall₂ R before ys₁ ∧ List.Forall₂ R after ys₂ ∧ ys = ys₁ ++ ys₂ :=
  ⟨_, _, (List.forall₂_take_append ys before after h.flip).flip,
    (List.forall₂_drop_append ys before after h.flip).flip, (List.take_append_drop ..).symm⟩

end Pairs

section Table

variable {α β : Type} {name : String} {x : α} {l : List (String × α)} {l' : List (String × β)}

theorem mem_of_lookup (h : l.lookup name = some x) : (name, x) ∈ l := by
  obtain ⟨before, after, rfl, -⟩ := List.lookup_eq_some_iff.mp h
  exact List.mem_append_right _ List.mem_cons_self

theorem lookup_eq_none (hname : name ∉ l.map (·.1)) : l.lookup name = none := by
  rw [List.lookup_eq_none_iff]
  intro p hp
  rw [bne_iff_ne]
  rintro rfl
  exact hname (List.mem_map_of_mem hp)

theorem lookup_eq_some (hmem : (name, x) ∈ l) (hunique : ∀ y, (name, y) ∈ l → y = x) :
    l.lookup name = some x := by
  cases hlookup : l.lookup name with
  | none =>
    have hne := List.lookup_eq_none_iff.mp hlookup _ hmem
    simp at hne
  | some y => rw [hunique y (mem_of_lookup hlookup)]

theorem lookup_of_forall₂ {d : α → Option β}
    (h : List.Forall₂ (fun p q => p.1 = q.1 ∧ d p.2 = some q.2) l l') (name : String) :
    l'.lookup name = (l.lookup name).bind d ∧ ∀ x, l.lookup name = some x → (d x).isSome := by
  induction h with
  | nil => exact ⟨rfl, by simp⟩
  | @cons p q l l' hpq _ ih =>
    obtain ⟨hname, hd⟩ := hpq
    rw [List.lookup_cons, List.lookup_cons, ← hname]
    cases name == p.1 with
    | true => exact ⟨hd.symm, fun x hx => by cases hx; simp [hd]⟩
    | false => exact ih

end Table

section State

variable {σ ε α β : Type}

theorem bind_run {x : ExceptT ε (StateM σ) α} {f : α → ExceptT ε (StateM σ) β} {s : σ} :
    (x >>= f) s = match x s with
      | (.ok a, t) => f a t
      | (.error e, t) => (.error e, t) := by
  change (match x s with | (a, t) => ExceptT.bindCont f a t) = _
  rcases x s with ⟨a | a, t⟩ <;> rfl

theorem map_run {f : α → β} {x : ExceptT ε (StateM σ) α} {s : σ} :
    (f <$> x) s = match x s with
      | (.ok a, t) => (.ok (f a), t)
      | (.error e, t) => (.error e, t) := by
  rw [← bind_pure_comp, bind_run]
  rcases x s with ⟨e | a, t⟩ <;> rfl

theorem get_bind_run {f : σ → ExceptT ε (StateM σ) β} {s : σ} : (get >>= f) s = f s s := rfl

theorem bind_run_ok {x : ExceptT ε (StateM σ) α} {f : α → ExceptT ε (StateM σ) β} {s u : σ}
    {b : β} : (x >>= f) s = (.ok b, u) ↔ ∃ a t, x s = (.ok a, t) ∧ f a t = (.ok b, u) := by
  rw [bind_run]
  constructor
  · intro h
    rcases hx : x s with ⟨e | a, t⟩
    · rw [hx] at h
      cases h
    · rw [hx] at h
      exact ⟨a, t, rfl, h⟩
  · rintro ⟨a, t, hx, h⟩
    rw [hx]
    exact h

theorem bind_run_error {x : ExceptT ε (StateM σ) α} {f : α → ExceptT ε (StateM σ) β} {s u : σ}
    {e : ε} : (x >>= f) s = (.error e, u) ↔
      x s = (.error e, u) ∨ ∃ a t, x s = (.ok a, t) ∧ f a t = (.error e, u) := by
  rw [bind_run]
  rcases hx : x s with ⟨e' | a, t⟩
  · constructor
    · intro h
      cases h
      exact .inl rfl
    · rintro (h | ⟨_, _, ⟨⟩, _⟩)
      cases h
      rfl
  · constructor
    · intro h
      exact .inr ⟨a, t, rfl, h⟩
    · rintro (⟨⟨⟩⟩ | ⟨_, _, ⟨⟩, h⟩)
      exact h

theorem not_pure_run_error {a : α} {e : ε} {s t : σ} :
    ¬(pure a : ExceptT ε (StateM σ) α) s = (.error e, t) := by
  intro h
  cases h

def FailOnly (P : ε → Prop) (x : ExceptT ε (StateM σ) α) : Prop :=
  ∀ s e t, x s = (.error e, t) → P e

theorem FailOnly.bind {P : ε → Prop} {x : ExceptT ε (StateM σ) α}
    {f : α → ExceptT ε (StateM σ) β} (hx : FailOnly P x) (hf : ∀ a, FailOnly P (f a)) :
    FailOnly P (x >>= f) := by
  intro s e u h
  rcases bind_run_error.mp h with h | ⟨a, t, -, h⟩
  · exact hx s e u h
  · exact hf a t e u h

theorem failOnly_pure {P : ε → Prop} {a : α} :
    FailOnly P (pure a : ExceptT ε (StateM σ) α) :=
  fun _ _ _ h => absurd h not_pure_run_error

theorem tryCatch_run {x : ExceptT ε (StateM σ) α} {handler : ε → ExceptT ε (StateM σ) α} {s : σ} :
    (tryCatch x handler) s = match x s with
      | (.ok a, t) => (.ok a, t)
      | (.error e, t) => handler e t := by
  change (match x s with
    | (r, t) => (match r with
      | .ok a => (pure (.ok a) : StateM σ (Except ε α))
      | .error e => handler e) t) = _
  rcases x s with ⟨e | a, t⟩ <;> rfl

theorem pure_run_ok {a b : α} {s t : σ} :
    (pure a : ExceptT ε (StateM σ) α) s = (.ok b, t) ↔ a = b ∧ s = t := by
  change ((.ok a, s) : Except ε α × σ) = (.ok b, t) ↔ _
  rw [Prod.mk.injEq, Except.ok.injEq]

theorem not_throw_run_ok {e : ε} {b : α} {s t : σ} :
    ¬(throw e : ExceptT ε (StateM σ) α) s = (.ok b, t) := by
  intro h
  cases h

end State

end StructForge

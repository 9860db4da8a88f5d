import StructForge.Proofs.Batch.Treatment

/-! # Comparing two runs

The same work is done at two benches that differ in something that it does not look at. It ends with
one answer then, and what becomes of the benches is compared too. A comparison says which benches
are told apart, and what may become of two that are not; the parts of a batch keep to it as soon as
its sink does. -/

namespace StructForge.Batch

open Files Schema

variable {α β : Type} {b u : Bench}

/-- Ends of work with one answer, at benches that are related. -/
def Ends (R : Bench → Bench → Prop) (x y : Except Fault α × Bench) : Prop :=
  x.1 = y.1 ∧ R x.2 y.2

theorem Ends.bind {R R' : Bench → Bench → Prop} {w v : Work α} {f g : α → Work β}
    (h : Ends R (w b) (v u)) (herror : ∀ b' u', R b' u' → R' b' u')
    (hrest : ∀ a b' u', R b' u' → Ends R' (f a b') (g a u')) :
    Ends R' ((w >>= f) b) ((v >>= g) u) := by
  obtain ⟨hanswer, hbenches⟩ := h
  rw [bind_run, bind_run]
  rcases hb : w b with ⟨answer, b'⟩
  rcases hu : v u with ⟨answer', u'⟩
  rw [hb, hu] at hanswer hbenches
  obtain rfl : answer = answer' := hanswer
  cases answer with
  | error f => exact ⟨rfl, herror b' u' hbenches⟩
  | ok a => exact hrest a b' u' hbenches

theorem Ends.guarded {R : Bench → Bench → Prop} {w v : Work α} (h : Ends R (w b) (v u)) :
    Ends R (Work.guarded w b) (Work.guarded v u) := by
  obtain ⟨hanswer, hbenches⟩ := h
  rw [Work.guarded_run, Work.guarded_run]
  rcases hb : w b with ⟨answer, b'⟩
  rcases hu : v u with ⟨answer', u'⟩
  rw [hb, hu] at hanswer hbenches
  obtain rfl : answer = answer' := hanswer
  cases answer with
  | ok a => exact ⟨rfl, hbenches⟩
  | error f =>
    cases hos : f.kind.isOs with
    | false =>
      simp only [hos]
      exact ⟨rfl, hbenches⟩
    | true =>
      simp only [hos]
      exact ⟨rfl, hbenches⟩

/-- A way to compare two runs: which benches are not told apart, and what may become of two such
benches. -/
structure Comparison where
  Same : Bench → Bench → Prop
  Leads : Bench → Bench → Bench → Bench → Prop
  same : ∀ {b u b' u'}, Leads b u b' u' → Same b' u'
  refl : ∀ {b u}, Same b u → Leads b u b u
  trans : ∀ {b u b' u' b'' u''}, Leads b u b' u' → Leads b' u' b'' u'' → Leads b u b'' u''

namespace Comparison

variable {r : Comparison} {k : Outlet} {o : Options} {ready : Bool} {s : Source} {t : Target}
  {dropped : List Dropped} {text : String}

/-- Work that ends with one answer at benches that are not told apart, and leads to what may become
of them. -/
def Keeps (r : Comparison) (w : Work α) : Prop :=
  ∀ b u, r.Same b u → Ends (r.Leads b u) (w b) (w u)

theorem keeps_pure (a : α) : r.Keeps (pure a : Work α) := fun _ _ h => ⟨rfl, r.refl h⟩

theorem keeps_throw (f : Fault) : r.Keeps (throw f : Work α) := fun _ _ h => ⟨rfl, r.refl h⟩

theorem Keeps.bind {w : Work α} {f : α → Work β} (hw : r.Keeps w) (hf : ∀ a, r.Keeps (f a)) :
    r.Keeps (w >>= f) := fun b u h =>
  (hw b u h).bind (fun _ _ => id) fun a b' u' hleads =>
    have ⟨hanswer, hleads'⟩ := hf a b' u' (r.same hleads)
    ⟨hanswer, r.trans hleads hleads'⟩

theorem Keeps.guarded {w : Work α} (hw : r.Keeps w) : r.Keeps (Work.guarded w) :=
  fun b u h => (hw b u h).guarded

/-- Work that looks at a bench only for what benches that are not told apart have in common. -/
theorem Keeps.get_bind {f : Bench → Work α} (hf : ∀ b, r.Keeps (f b))
    (heq : ∀ b u, r.Same b u → f b = f u) : r.Keeps (get >>= f) := by
  intro b u h
  rw [get_bind_run, get_bind_run, heq b u h]
  exact hf u b u h

/-- Whether the small steps of a batch keep to a comparison: those of its sink, and the messages
about them. -/
structure Covers (r : Comparison) (k : Outlet) : Prop where
  directory : ∀ b u, r.Same b u → k.directory b = k.directory u
  ensureDirectory : r.Keeps k.ensureDirectory
  write : ∀ name text, r.Keeps (k.write name text)
  say : ∀ level message, level ≠ .warning → r.Keeps (Work.say level message)

theorem Covers.save (hk : r.Covers k) : r.Keeps (Work.save k ready t text) := by
  have hwrite : r.Keeps (do return (true, ← Work.guarded (k.write t.fileName text)) :
      Work (Bool × Except Fault Path)) :=
    (hk.write _ _).guarded.bind fun _ => keeps_pure _
  unfold Work.save
  cases ready with
  | true => exact hwrite
  | false =>
    refine hk.ensureDirectory.guarded.bind fun made => ?_
    cases made with
    | error f => exact keeps_pure _
    | ok dir => exact hwrite

theorem Covers.finish (hk : r.Covers k) : r.Keeps (Work.finish k o ready s t dropped text) := by
  unfold Work.finish
  split
  · refine .get_bind (fun _ => keeps_pure _) fun b u h => ?_
    rw [hk.directory b u h]
  · refine hk.save.bind ?_
    rintro ⟨known, answer⟩
    cases answer with
    | error f => exact (hk.say _ _ (by decide)).bind fun _ => keeps_pure _
    | ok path => exact (hk.say _ _ (by decide)).bind fun _ => keeps_pure _

end Comparison

end StructForge.Batch

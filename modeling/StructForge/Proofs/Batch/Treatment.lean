import StructForge.Batch.Run
import StructForge.Proofs.Steps

/-! # How the treatment of a candidate ends

A candidate passes through naming, emission, the making of the output directory and the writing of
its text. Each way to get through these stages is one case here, with the outlet for texts left
open. Messages in the log are left out, except those that an outlet could see. -/

namespace StructForge.Batch

open Files Schema Struct

def Bench.logged (b : Bench) (records : List LogRecord) : Bench :=
  { b with log := b.log ++ records }

@[simp] theorem Bench.logged_tree (b : Bench) (records : List LogRecord) :
    (b.logged records).tree = b.tree := rfl

@[simp] theorem Bench.logged_sink (b : Bench) (records : List LogRecord) :
    (b.logged records).sink = b.sink := rfl

@[simp] theorem Bench.logged_logged (b : Bench) (records more : List LogRecord) :
    (b.logged records).logged more = b.logged (records ++ more) := by
  simp [Bench.logged]

def Bench.drafted (b : Bench) (c : Config) (s : Source) (t : Target) : Bench :=
  { b with
    standardLoaded := b.standardLoaded || loadsStandard (b.templates c) t s.extract }

@[simp] theorem Bench.drafted_tree (b : Bench) (c : Config) (s : Source) (t : Target) :
    (b.drafted c s t).tree = b.tree := rfl

@[simp] theorem Bench.drafted_sink (b : Bench) (c : Config) (s : Source) (t : Target) :
    (b.drafted c s t).sink = b.sink := rfl

@[simp] theorem Bench.logged_templates (b : Bench) (records : List LogRecord) (c : Config) :
    (b.logged records).templates c = b.templates c := rfl

/-- What is in the log about the fields of a candidate and its text before the text is written. -/
def renderedLog (c : Config) (s : Source) (t : Target) : List LogRecord :=
  s.extractLog ++ s.extract.dropped.map (droppedRecord c.dropPolicy s) ++
    [emitLog t s.extract.fields]

def Bench.rendered (b : Bench) (c : Config) (s : Source) (t : Target) : Bench :=
  (b.drafted c s t).logged (renderedLog c s t)

@[simp] theorem Bench.rendered_tree (b : Bench) (c : Config) (s : Source) (t : Target) :
    (b.rendered c s t).tree = b.tree := rfl

@[simp] theorem Bench.rendered_sink (b : Bench) (c : Config) (s : Source) (t : Target) :
    (b.rendered c s t).sink = b.sink := rfl

namespace Outlet

/-- The bench at which a text is written: the given one if the output directory is known to be
there, and else the one that making it leaves. -/
inductive Readies (k : Outlet) (ready : Bool) (b : Bench) : Bench → Prop
  | known (h : ready = true) : Readies k ready b b
  | made {dir : Path} {b' : Bench} (h : ready = false)
      (hmade : k.ensureDirectory b = (.ok dir, b')) : Readies k ready b b'

/-- How saving a text ends: whether the output directory is known to be there, the answer, and the
bench that is left. -/
inductive Saves (k : Outlet) (ready : Bool) (name text : String) (b : Bench) :
    Bool → Except Fault Path → Bench → Prop
  | noDirectory {f : Fault} {b' : Bench} (hready : ready = false)
      (hmade : k.ensureDirectory b = (.error f, b')) (hos : f.kind.isOs = true) :
      Saves k ready name text b false (.error f) b'
  | unwritten {f : Fault} {b₁ b' : Bench} (hready : k.Readies ready b b₁)
      (hwrite : k.write name text b₁ = (.error f, b')) (hos : f.kind.isOs = true) :
      Saves k ready name text b true (.error f) b'
  | written {path : Path} {b₁ b' : Bench} (hready : k.Readies ready b b₁)
      (hwrite : k.write name text b₁ = (.ok path, b')) :
      Saves k ready name text b true (.ok path) b'

end Outlet

/-- How the treatment of a candidate ends: whether the output directory is known to be there, the
outcome, and the bench that is left. -/
inductive Treated (k : Outlet) (c : Config) (o : Options) (ready : Bool) (s : Source) (b : Bench) :
    Bool → Outcome → Bench → Prop
  | unnamed {f : NamingFault} {records : List LogRecord} (hname : c.naming.target s = .error f) :
      Treated k c o ready s b ready (.unnamed s.name f.message) (b.logged records)
  | unrendered {t : Target} {error : String} {records : List LogRecord}
      (hname : c.naming.target s = .ok t)
      (hdraft : draft (b.templates c) t s.extract = .ok (.unrendered error)) :
      Treated k c o ready s b ready (.unrendered s.name t s.extract.dropped error)
        ((b.drafted c s t).logged records)
  | skipped {t : Target} {records : List LogRecord} (hname : c.naming.target s = .ok t)
      (hdraft : draft (b.templates c) t s.extract = .ok .empty) :
      Treated k c o ready s b ready (.skipped s.name t s.extract.dropped)
        ((b.drafted c s t).logged records)
  | previewed {t : Target} {text : String} {records : List LogRecord}
      (hname : c.naming.target s = .ok t)
      (hdraft : draft (b.templates c) t s.extract = .ok (.ready text))
      (hdry : o.dryRun = true) :
      Treated k c o ready s b ready
        (.previewed s.name t s.extract.dropped
          ((k.directory (b.rendered c s t)).child t.fileName) text)
        ((b.drafted c s t).logged records)
  | unwritten {ready' : Bool} {t : Target} {text : String} {f : Fault} {b' : Bench}
      {records : List LogRecord} (hname : c.naming.target s = .ok t)
      (hdraft : draft (b.templates c) t s.extract = .ok (.ready text))
      (hdry : o.dryRun = false)
      (hsave : k.Saves ready t.fileName text (b.rendered c s t) ready' (.error f) b') :
      Treated k c o ready s b ready' (.unwritten s.name t s.extract.dropped text f.message)
        (b'.logged records)
  | written {ready' : Bool} {t : Target} {text : String} {path : Path} {b' : Bench}
      {records : List LogRecord} (hname : c.naming.target s = .ok t)
      (hdraft : draft (b.templates c) t s.extract = .ok (.ready text))
      (hdry : o.dryRun = false)
      (hsave : k.Saves ready t.fileName text (b.rendered c s t) ready' (.ok path) b') :
      Treated k c o ready s b ready' (.written s.name t s.extract.dropped path text)
        (b'.logged records)

namespace Work

variable {α : Type} {k : Outlet} {c : Config} {o : Options} {ready ready' : Bool} {s : Source}
  {b b' : Bench} {outcome : Outcome} {t : Target} {text : String} {answer : Except Fault Path}

/-- Guarded work answers with an error of the file system, and lets other failures pass. -/
theorem guarded_run (w : Work α) (b : Bench) :
    guarded w b = match w b with
      | (.ok r, b') => (.ok (.ok r), b')
      | (.error f, b') => if f.kind.isOs then (.ok (.error f), b') else (.error f, b') := by
  rw [guarded, tryCatch_run, bind_run]
  rcases w b with ⟨f | r, b'⟩
  · cases hos : f.kind.isOs with
    | false =>
      simp only [hos]
      rfl
    | true =>
      simp only [hos]
      rfl
  · rfl

theorem guarded_run_ok {w : Work α} {answer : Except Fault α}
    (h : guarded w b = (.ok answer, b')) :
    (∃ r, answer = .ok r ∧ w b = (.ok r, b')) ∨
      (∃ f, answer = .error f ∧ f.kind.isOs = true ∧ w b = (.error f, b')) := by
  rw [guarded_run] at h
  rcases hw : w b with ⟨f | r, u⟩
  · rw [hw] at h
    cases hos : f.kind.isOs with
    | false =>
      simp only [hos] at h
      cases h
    | true =>
      simp only [hos] at h
      cases h
      exact .inr ⟨f, rfl, hos, rfl⟩
  · rw [hw] at h
    cases h
    exact .inl ⟨r, rfl, rfl⟩

theorem note_bind_run {records : List LogRecord} {w : Unit → Work α} :
    (note records >>= w) b = w () (b.logged records) := rfl

/-- Work that follows a draft begins at the bench where the draft has been made. -/
theorem keepStandard_bind_run {c : Config} {records : List LogRecord} {w : Unit → Work α} :
    (keepStandard (loadsStandard (b.templates c) t s.extract) >>= w) (b.logged records) =
      w () ((b.drafted c s t).logged records) := rfl

theorem say_return_run_ok {level : Level} {message : String} {x a : α}
    (h : (say level message >>= fun _ => pure x) b = (.ok a, b')) :
    x = a ∧ ∃ records, b' = b.logged records := by
  obtain ⟨rfl, rfl⟩ := pure_run_ok.mp h
  exact ⟨rfl, _, rfl⟩

/-- A text is written by guarded work at a bench where the output directory is there. -/
theorem saves_of_write {b₁ : Bench} (hready : k.Readies ready b b₁)
    (h : guarded (k.write t.fileName text) b₁ = (.ok answer, b')) :
    k.Saves ready t.fileName text b true answer b' := by
  rcases guarded_run_ok h with ⟨path, rfl, hwrite⟩ | ⟨f, rfl, hos, hwrite⟩
  · exact .written hready hwrite
  · exact .unwritten hready hwrite hos

theorem save_run_ok (h : save k ready t text b = (.ok (ready', answer), b')) :
    k.Saves ready t.fileName text b ready' answer b' := by
  unfold save at h
  cases hready : ready with
  | true =>
    rw [hready] at h
    obtain ⟨answer', b₁, hwrite, hpure⟩ := bind_run_ok.mp h
    obtain ⟨hpair, rfl⟩ := pure_run_ok.mp hpure
    cases hpair
    exact saves_of_write (.known rfl) hwrite
  | false =>
    rw [hready] at h
    obtain ⟨made, b₁, hmade, h⟩ := bind_run_ok.mp h
    rcases guarded_run_ok hmade with ⟨dir, rfl, hdir⟩ | ⟨f, rfl, hos, hdir⟩
    · obtain ⟨answer', b₂, hwrite, hpure⟩ := bind_run_ok.mp h
      obtain ⟨hpair, rfl⟩ := pure_run_ok.mp hpure
      cases hpair
      exact saves_of_write (.made rfl hdir) hwrite
    · obtain ⟨hpair, rfl⟩ := pure_run_ok.mp h
      cases hpair
      exact .noDirectory rfl hdir hos

/-- A candidate with a text is previewed, or saved, or its failure is an outcome. -/
theorem finish_run_ok (hname : c.naming.target s = .ok t)
    (hdraft : draft (b.templates c) t s.extract = .ok (.ready text))
    (h : finish k o ready s t s.extract.dropped text (b.rendered c s t) =
      (.ok (ready', outcome), b')) :
    Treated k c o ready s b ready' outcome b' := by
  unfold finish at h
  cases hdry : o.dryRun with
  | true =>
    rw [hdry, if_pos rfl] at h
    cases h
    exact .previewed hname hdraft hdry
  | false =>
    rw [hdry, if_neg Bool.false_ne_true] at h
    obtain ⟨⟨known, answer⟩, b₁, hsave, h⟩ := bind_run_ok.mp h
    have hsave := save_run_ok hsave
    cases answer with
    | error f =>
      obtain ⟨hpair, records, rfl⟩ := say_return_run_ok h
      cases hpair
      exact .unwritten hname hdraft hdry hsave
    | ok path =>
      obtain ⟨hpair, records, rfl⟩ := say_return_run_ok h
      cases hpair
      exact .written hname hdraft hdry hsave

/-- Handling a candidate ends in one of the ways listed. -/
theorem treated_of_handle (h : handle k c o ready s b = (.ok (ready', outcome), b')) :
    Treated k c o ready s b ready' outcome b' := by
  unfold handle at h
  cases hname : c.naming.target s with
  | error f =>
    rw [hname] at h
    obtain ⟨hpair, records, rfl⟩ := say_return_run_ok h
    cases hpair
    exact .unnamed hname
  | ok t =>
    rw [hname] at h
    simp only [note_bind_run, get_bind_run, Bench.logged_templates, Bench.logged_logged,
      keepStandard_bind_run] at h
    cases hdraft : draft (b.templates c) t s.extract with
    | error f =>
      rw [hdraft] at h
      exact absurd h not_throw_run_ok
    | ok d =>
    rw [hdraft] at h
    cases d with
    | unrendered error =>
      obtain ⟨hpair, records, rfl⟩ := say_return_run_ok h
      cases hpair
      rw [Bench.logged_logged]
      exact .unrendered hname hdraft
    | empty =>
      obtain ⟨hpair, records, rfl⟩ := say_return_run_ok h
      cases hpair
      rw [Bench.logged_logged]
      exact .skipped hname hdraft
    | ready text =>
      simp only [note_bind_run, Bench.logged_logged] at h
      exact finish_run_ok hname hdraft h

/-- Handling candidates in order is handling the first one, and the others at the bench that it
leaves. -/
theorem handleAll_cons_run_ok {candidates : List Source} {outcomes : List Outcome} :
    handleAll k c o ready (s :: candidates) b = (.ok outcomes, b') ↔
      ∃ ready' outcome rest b₁, handle k c o ready s b = (.ok (ready', outcome), b₁) ∧
        handleAll k c o ready' candidates b₁ = (.ok rest, b') ∧ outcomes = outcome :: rest := by
  rw [handleAll, bind_run_ok]
  constructor
  · rintro ⟨⟨ready', outcome⟩, b₁, hhandle, h⟩
    obtain ⟨rest, b₂, hrest, hpure⟩ := bind_run_ok.mp h
    obtain ⟨rfl, rfl⟩ := pure_run_ok.mp hpure
    exact ⟨ready', outcome, rest, b₁, hhandle, hrest, rfl⟩
  · rintro ⟨ready', outcome, rest, b₁, hhandle, hrest, rfl⟩
    exact ⟨(ready', outcome), b₁, hhandle, bind_run_ok.mpr ⟨rest, b', hrest, rfl⟩⟩

end Work

end StructForge.Batch

import StructForge.Proofs.Batch.Announcement
import StructForge.Proofs.Batch.Comparison

/-! # What the drop policy decides

The policy for dropped fields decides on the level of the records about them, and on nothing else.
Two runs of a batch are compared step by step, the first under the policy that warns and the second
under the one that does not. They end alike, and the log of the second is that of the first with its
warnings lowered. Nothing but dropped fields is warned about. -/

namespace StructForge

def LogRecord.lowered (r : LogRecord) : LogRecord :=
  if r.level = .warning then { r with level := .debug } else r

def warnings (records : List LogRecord) : List LogRecord := records.filter (·.level = .warning)

def Config.under (c : Config) (p : DropPolicy) : Config := { c with dropPolicy := p }

@[simp] theorem LogRecord.lowered_lowered (r : LogRecord) : r.lowered.lowered = r.lowered := by
  by_cases h : r.level = .warning <;> simp [lowered, h]

@[simp] theorem warnings_append (records more : List LogRecord) :
    warnings (records ++ more) = warnings records ++ warnings more :=
  List.filter_append ..

theorem map_lowered {records : List LogRecord} (h : warnings records = []) :
    records.map LogRecord.lowered = records := by
  have hsame : ∀ r ∈ records, r.lowered = id r := by
    intro r hr
    have hlevel : r.level ≠ .warning := by simpa using List.filter_eq_nil_iff.mp h r hr
    exact if_neg hlevel
  rw [List.map_congr_left hsame, List.map_id]

end StructForge

namespace StructForge.Batch

open Files Schema Struct

def Bench.lowered (b : Bench) : Bench := { b with log := b.log.map LogRecord.lowered }

/-- What stands in the way of a sink, if it does not tell a warning from a lowered one. -/
def Hindrance.lowered (h : Hindrance) : Hindrance where
  directory b := h.directory b.lowered
  write name text b := h.write name text b.lowered

/-- The warnings that a candidate calls for: one for each of its dropped fields, in order, unless it
cannot be named. -/
def dropWarnings (n : Naming) (s : Source) : List LogRecord :=
  if (n.target s).isOk then s.extract.dropped.map (droppedRecord .warn s) else []

theorem map_lowered_droppedRecord (s : Source) (dropped : List Dropped) :
    (dropped.map (droppedRecord .warn s)).map LogRecord.lowered =
      dropped.map (droppedRecord .silent s) := by
  rw [List.map_map]
  rfl

theorem warnings_droppedRecord (s : Source) (dropped : List Dropped) :
    warnings (dropped.map (droppedRecord .warn s)) = dropped.map (droppedRecord .warn s) := by
  unfold warnings
  rw [List.filter_eq_self]
  intro r hr
  obtain ⟨d, -, rfl⟩ := List.mem_map.mp hr
  rfl

theorem warnings_extractLog (s : Source) : warnings s.extractLog = [] := by
  unfold warnings
  rw [List.filter_eq_nil_iff]
  intro r hr
  obtain ⟨f, -, rfl⟩ := List.mem_map.mp hr
  exact Bool.false_ne_true

theorem Bench.lowered_mk {tree : Tree} {sink : Sink} {log log' : List LogRecord}
    {announced : List (List Path)} {loaded : Bool}
    (h : log.map LogRecord.lowered = log'.map LogRecord.lowered) :
    (Bench.mk tree sink log announced loaded).lowered =
      (Bench.mk tree sink log' announced loaded).lowered := by
  rw [Bench.lowered, Bench.lowered, h]

theorem Bench.lowered_eq {b u : Bench} : b.lowered = u.lowered ↔
    ∃ log, u = { b with log } ∧ b.log.map LogRecord.lowered = log.map LogRecord.lowered := by
  constructor
  · intro h
    obtain ⟨tree, sink, log, announced, loaded⟩ := u
    obtain ⟨rfl, rfl, hlog, rfl, rfl⟩ := Bench.mk.inj h
    exact ⟨log, rfl, hlog⟩
  · rintro ⟨log, rfl, hlog⟩
    exact Bench.lowered_mk hlog

theorem Bench.templates_eq {b u : Bench} (h : b.lowered = u.lowered) (c : Config) :
    b.templates c = u.templates c := by
  obtain ⟨log, rfl, -⟩ := Bench.lowered_eq.mp h
  rfl

/-! ## Two runs, of which the second lowers the warnings of the first -/

/-- How two benches that are alike up to warnings go on: they stay so, and the second adds to its
log what the first adds, lowered. -/
structure Bench.Softens (b u : Bench) (raised : List LogRecord) (b' u' : Bench) : Prop where
  alike : b'.lowered = u'.lowered
  log : ∃ added, b'.log = b.log ++ added ∧ u'.log = u.log ++ added.map LogRecord.lowered ∧
    warnings added = raised

/-- Nothing is raised by a change that leaves the logs alone. -/
theorem Bench.Softens.of_log {b u b' u' : Bench} (h : b'.lowered = u'.lowered)
    (hb : b'.log = b.log) (hu : u'.log = u.log) : b.Softens u [] b' u' :=
  ⟨h, [], hb.trans (List.append_nil _).symm, hu.trans (List.append_nil _).symm, rfl⟩

theorem Bench.Softens.trans {b u b' u' b'' u'' : Bench} {raised raised' : List LogRecord}
    (h : b.Softens u raised b' u') (h' : b'.Softens u' raised' b'' u'') :
    b.Softens u (raised ++ raised') b'' u'' := by
  obtain ⟨added, hb, hu, rfl⟩ := h.log
  obtain ⟨added', hb', hu', rfl⟩ := h'.log
  refine ⟨h'.alike, added ++ added', ?_, ?_, warnings_append ..⟩
  · rw [hb', hb, List.append_assoc]
  · rw [hu', hu, List.map_append, List.append_assoc]

theorem Bench.softens_logged {b u : Bench} (h : b.lowered = u.lowered) (records : List LogRecord) :
    b.Softens u (warnings records) (b.logged records)
      (u.logged (records.map LogRecord.lowered)) := by
  obtain ⟨log, rfl, hlog⟩ := Bench.lowered_eq.mp h
  refine ⟨Bench.lowered_mk ?_, records, rfl, rfl, rfl⟩
  simp [hlog]

/-- The comparison of two runs that raise no warnings and do not look at levels. -/
def softening : Comparison where
  Same b u := b.lowered = u.lowered
  Leads b u b' u' := b.Softens u [] b' u'
  same h := h.alike
  refl h := .of_log h rfl rfl
  trans h h' := h.trans h'

section Steps

variable {α : Type} {b u b' u' : Bench} {raised raised' : List LogRecord}

/-- Work at the benches that other work has left behind. -/
theorem Ends.after {x y : Except Fault α × Bench} (h : b.Softens u raised b' u')
    (h' : Ends (b'.Softens u' raised') x y) : Ends (b.Softens u (raised ++ raised')) x y :=
  ⟨h'.1, h.trans h'.2⟩

theorem Comparison.Keeps.after {w : Work α} (hw : softening.Keeps w)
    (h : b.Softens u raised b' u') : Ends (b.Softens u raised) (w b') (w u') := by
  have hafter := Ends.after h (hw b' u' h.alike)
  rwa [List.append_nil] at hafter

theorem Ends.bind_keeps {β : Type} {w v : Work α} {f : α → Work β}
    (h : Ends (b.Softens u raised) (w b) (v u)) (hf : ∀ a, softening.Keeps (f a)) :
    Ends (b.Softens u raised) ((w >>= f) b) ((v >>= f) u) :=
  h.bind (fun _ _ => id) fun a _ _ hsoftens => (hf a).after hsoftens

theorem keeps_note {records : List LogRecord} (h : warnings records = []) :
    softening.Keeps (Work.note records) := by
  intro b u hbu
  have hlogged := Bench.softens_logged hbu records
  rw [map_lowered h, h] at hlogged
  exact ⟨rfl, hlogged⟩

theorem keeps_say {level : Level} (h : level ≠ .warning) (message : String) :
    softening.Keeps (Work.say level message) :=
  keeps_note (List.filter_eq_nil_iff.mpr (by simpa using h))

theorem keeps_keepStandard (loaded : Bool) : softening.Keeps (Work.keepStandard loaded) := by
  intro b u h
  obtain ⟨log, rfl, hlog⟩ := Bench.lowered_eq.mp h
  exact ⟨rfl, .of_log (Bench.lowered_mk hlog) rfl rfl⟩

theorem keeps_refresh : softening.Keeps Work.refresh := by
  intro b u h
  obtain ⟨log, rfl, hlog⟩ := Bench.lowered_eq.mp h
  exact ⟨rfl, .of_log (Bench.lowered_mk hlog) rfl rfl⟩

theorem keeps_ensureDirectory : softening.Keeps Work.ensureDirectory := by
  intro b u h
  obtain ⟨log, rfl, hlog⟩ := Bench.lowered_eq.mp h
  simp only [Work.ensureDirectory_run]
  rcases Action.makeDirectories b.sink.outputDir b.tree with ⟨f | ⟨⟩, tree⟩
  · exact ⟨rfl, .of_log (Bench.lowered_mk hlog) rfl rfl⟩
  · exact ⟨rfl, .of_log (Bench.lowered_mk hlog) rfl rfl⟩

theorem keeps_write (name text : String) : softening.Keeps (Work.write name text) := by
  intro b u h
  obtain ⟨log, rfl, hlog⟩ := Bench.lowered_eq.mp h
  simp only [Work.write_run]
  cases b.sink.readOnly.contains name with
  | true => exact ⟨rfl, .of_log (Bench.lowered_mk hlog) rfl rfl⟩
  | false =>
    rcases Action.writeText (b.sink.outputDir.child name) text b.tree with ⟨f | ⟨⟩, tree⟩
    · exact ⟨rfl, .of_log (Bench.lowered_mk hlog) rfl rfl⟩
    · refine ⟨rfl, Bench.lowered_mk ?_, [_], rfl, rfl, rfl⟩
      rw [List.map_append, hlog, List.map_append]

/-- What stands in the way of work makes no difference to the comparison if it does not look at
levels. -/
theorem keeps_hindered {w : Work α} (hw : softening.Keeps w)
    (obstacle : Bench → Option (Fault × Tree)) :
    softening.Keeps (Work.hindered (fun b => obstacle b.lowered) w) := by
  intro b u h
  obtain ⟨log, rfl, hlog⟩ := Bench.lowered_eq.mp h
  rw [Work.hindered_run, Work.hindered_run, ← show b.lowered = _ from h]
  rcases obstacle b.lowered with _ | ⟨f, tree⟩
  · exact hw _ _ h
  · exact ⟨rfl, .of_log (Bench.lowered_mk hlog) rfl rfl⟩

theorem covers_hindered (h : Hindrance) : softening.Covers (.hindered h.lowered) where
  directory b u hbu := by
    obtain ⟨log, rfl, -⟩ := Bench.lowered_eq.mp hbu
    rfl
  ensureDirectory := keeps_hindered keeps_ensureDirectory h.directory
  write name text := keeps_hindered (keeps_write name text) (h.write name text)
  say _ message hlevel := keeps_say hlevel message

end Steps

/-! ## One candidate, and all of them -/

namespace Work

open Comparison

variable {k : Outlet} {b u : Bench}

/-- Handling a candidate raises the warnings that it calls for, however it ends. -/
theorem softens_handle (hk : softening.Covers k) (h : b.lowered = u.lowered) (c : Config)
    (o : Options) (ready : Bool) (s : Source) :
    Ends (b.Softens u (dropWarnings c.naming s)) (handle k (c.under .warn) o ready s b)
      (handle k (c.under .silent) o ready s u) := by
  have hnaming (p : DropPolicy) : (c.under p).naming = c.naming := rfl
  have hpolicy (p : DropPolicy) : (c.under p).dropPolicy = p := rfl
  have htemplates (p : DropPolicy) (b : Bench) : b.templates (c.under p) = b.templates c := rfl
  unfold handle dropWarnings
  simp only [hnaming, hpolicy, htemplates]
  cases c.naming.target s with
  | error f => exact (keeps_say (by decide) _).bind (fun _ => keeps_pure _) b u h
  | ok t =>
    have hlogged := Bench.softens_logged h
      (s.extractLog ++ s.extract.dropped.map (droppedRecord .warn s))
    rw [warnings_append, warnings_extractLog, warnings_droppedRecord, List.map_append,
      map_lowered (warnings_extractLog s), map_lowered_droppedRecord] at hlogged
    simp only [note_bind_run, get_bind_run, Bench.logged_templates, Bench.logged_logged,
      Bench.templates_eq h]
    refine Keeps.after ((keeps_keepStandard _).bind fun _ => ?_) hlogged
    rcases draft (u.templates c) t s.extract with f | (error | - | text)
    · exact keeps_throw f
    · exact (keeps_say (by decide) _).bind fun _ => keeps_pure _
    · exact (keeps_say (by decide) _).bind fun _ => keeps_pure _
    · exact (keeps_note rfl).bind fun _ => hk.finish

/-- Handling candidates raises the warnings that they call for, up to a candidate whose failure
leaves the batch. -/
theorem exists_softens_handleAll (hk : softening.Covers k) (h : b.lowered = u.lowered) (c : Config)
    (o : Options) (ready : Bool) (candidates : List Source) :
    ∃ met, met <+: candidates ∧
      Ends (b.Softens u (met.flatMap (dropWarnings c.naming)))
        (handleAll k (c.under .warn) o ready candidates b)
        (handleAll k (c.under .silent) o ready candidates u) ∧
      ∀ outcomes, (handleAll k (c.under .warn) o ready candidates b).1 = .ok outcomes →
        met = candidates := by
  induction candidates generalizing ready b u with
  | nil => exact ⟨[], List.prefix_rfl, keeps_pure (r := softening) _ b u h, fun _ _ => rfl⟩
  | cons s rest ih =>
    obtain ⟨hanswer, hbenches⟩ := softens_handle hk h c o ready s
    simp only [handleAll]
    rw [bind_run, bind_run]
    rcases hb : handle k (c.under .warn) o ready s b with ⟨answer, b'⟩
    rcases hu : handle k (c.under .silent) o ready s u with ⟨answer', u'⟩
    rw [hb, hu] at hanswer hbenches
    obtain rfl : answer = answer' := hanswer
    cases answer with
    | error f =>
      refine ⟨[s], ?_, ⟨rfl, ?_⟩, fun outcomes hok => ?_⟩
      · exact List.cons_prefix_cons.mpr ⟨rfl, List.nil_prefix⟩
      · simpa using hbenches
      · cases hok
    | ok answer =>
      obtain ⟨known, outcome⟩ := answer
      obtain ⟨met, hprefix, hrest, hall⟩ := ih hbenches.alike known
      refine ⟨s :: met, List.cons_prefix_cons.mpr ⟨rfl, hprefix⟩, ?_, fun outcomes hok => ?_⟩
      · exact .after hbenches (hrest.bind_keeps fun _ => keeps_pure _)
      · obtain ⟨others, b'', hothers, -⟩ := bind_run_ok.mp (eq_mk_of_fst_eq hok)
        rw [hall others (congrArg Prod.fst hothers)]

theorem exists_softens_generateTo (hk : softening.Covers k) (hrefresh : softening.Keeps k.refresh)
    (h : b.lowered = u.lowered) (c : Config) (o : Options) (raiseOnError : Bool)
    (candidates : List Source) :
    ∃ met, met <+: candidates ∧
      Ends (b.Softens u (met.flatMap (dropWarnings c.naming)))
        (generateTo k (c.under .warn) o raiseOnError candidates b)
        (generateTo k (c.under .silent) o raiseOnError candidates u) ∧
      ∀ conclusion,
        (generateTo k (c.under .warn) o raiseOnError candidates b).1 = .ok conclusion →
          met = candidates := by
  obtain ⟨met, hprefix, hhandled, hall⟩ := exists_softens_handleAll hk h c o false candidates
  refine ⟨met, hprefix, ?_, fun conclusion hok => ?_⟩
  · refine .bind_keeps (.bind_keeps hhandled fun outcomes => ?_) fun _ => keeps_pure _
    dsimp only
    split
    · exact hrefresh.bind fun _ => (keeps_say (by decide) _).bind fun _ => keeps_pure _
    · exact (keeps_say (by decide) _).bind fun _ => keeps_pure _
  · obtain ⟨report, hrun, -⟩ := generateTo_run_ok.mp (eq_mk_of_fst_eq hok)
    obtain ⟨b₁, hhandle⟩ := handleAll_of_runTo hrun
    exact hall report.outcomes (congrArg Prod.fst hhandle)

end Work

/-- The policy for dropped fields makes no difference but in the log, whatever keeps the sink from
writing, if anything does. The logs are the same up to the level of warnings, and the warnings are
one for each dropped field of each candidate that can be named, in order. They are there for all
candidates if the batch is concluded, and for some first ones if a failure leaves it. -/
theorem generate_of_dropPolicy (c : Config) (h : Hindrance) (o : Options) (raiseOnError : Bool)
    (candidates : List Source) (b : Bench) :
    let loud := Work.generateTo (.hindered h.lowered) (c.under .warn) o raiseOnError candidates b
    let silent :=
      Work.generateTo (.hindered h.lowered) (c.under .silent) o raiseOnError candidates b
    ∃ added met, loud.2.log = b.log ++ added ∧
      silent = (loud.1, { loud.2 with log := b.log ++ added.map LogRecord.lowered }) ∧
      warnings added = met.flatMap (dropWarnings c.naming) ∧ met <+: candidates ∧
      ∀ conclusion, loud.1 = .ok conclusion → met = candidates := by
  intro loud silent
  obtain ⟨met, hprefix, ⟨hanswer, hbenches⟩, hall⟩ :=
    Work.exists_softens_generateTo (covers_hindered h) keeps_refresh (rfl : b.lowered = b.lowered)
      c o raiseOnError candidates
  obtain ⟨added, hlog, hlog', hwarnings⟩ := hbenches.log
  obtain ⟨log, hsilent, -⟩ := Bench.lowered_eq.mp hbenches.alike
  refine ⟨added, met, hlog, Prod.ext hanswer.symm ?_, hwarnings, hprefix, hall⟩
  have hsame : log = b.log ++ added.map LogRecord.lowered := by
    rw [← hlog', hsilent]
  rw [← hsame]
  exact hsilent

end StructForge.Batch

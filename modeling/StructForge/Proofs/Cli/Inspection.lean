import StructForge.Cli.Session
import StructForge.Proofs.Batch.Accounting
import StructForge.Proofs.Schema.Extraction
import StructForge.Proofs.Struct.Layout

/-! # What an inspection anticipates

An inspection names and classifies candidates as a batch does, but fails over the first one that
cannot be named, where a batch records the failure and goes on. Otherwise it shows what the outcomes
of every batch of the candidates have in common. -/

namespace StructForge.Batch

open Files Schema Struct

def Outcome.IsUnnamed (x : Outcome) : Prop := x.status = .failed ∧ x.target? = none

instance (x : Outcome) : Decidable x.IsUnnamed := inferInstanceAs (Decidable (_ ∧ _))

/-- Whether an outcome is as the names and the classified fields of its candidate say. If it has a
text, that is the one of a model with a slot for each retained field, in order. -/
structure ShownBy (c : Config) (x : Outcome) (shown : Target × FieldSet) : Prop where
  target : x.target? = some shown.1
  dropped : x.dropped = shown.2.dropped
  skipped_iff : x.status = .skipped ↔ shown.2.isEmpty = true
  declares : ∀ text, x.text? = some text → ∃ (u : Bench) (m : StructModel),
    StructModel.build shown.1 shown.2.fields = .ok m ∧
    m.slots.map (·.name) = shown.2.fields.map (·.name) ∧
    m.emitText (u.templates c) standardTemplate shown.1.fileName = .ok text

/-- Whether an outcome bears out what the inspection of its candidate answers. -/
inductive BearsOut (c : Config) (x : Outcome) : Except NamingFault (Target × FieldSet) → Prop
  | unnamed {f : NamingFault} (hunnamed : x.IsUnnamed) (herror : x.error? = some f.message) :
      BearsOut c x (.error f)
  | shown {shown : Target × FieldSet} (h : ShownBy c x shown) : BearsOut c x (.ok shown)

/-- Whether an inspection anticipates a report. It fails with the first naming failure of the report,
and otherwise shows the outcomes one by one. -/
structure Anticipates (c : Config) (answer : Except NamingFault (List (Target × FieldSet)))
    (r : Report) : Prop where
  fails_iff : (∃ f, answer = .error f) ↔ ∃ x ∈ r.outcomes, x.IsUnnamed
  message : ∀ f, answer = .error f →
    (r.outcomes.find? (·.IsUnnamed)).bind (·.error?) = some f.message
  shows : ∀ shown, answer = .ok shown → List.Forall₂ (ShownBy c) r.outcomes shown

def show? (n : Naming) (s : Source) : Except NamingFault (Target × FieldSet) := do
  return (← n.target s, s.extract)

section Outcomes

variable {k : Outlet} {c : Config} {o : Options} {ready ready' : Bool} {s : Source}
  {candidates : List Source} {t : Target} {text : String} {b b' : Bench} {outcome : Outcome}
  {outcomes : List Outcome}

theorem show?_eq_ok {shown : Target × FieldSet} :
    show? c.naming s = .ok shown ↔ c.naming.target s = .ok shown.1 ∧ shown.2 = s.extract := by
  unfold show?
  rw [bind_eq_ok]
  constructor
  · rintro ⟨t, ht, ⟨⟩⟩
    exact ⟨ht, rfl⟩
  · rintro ⟨ht, hextract⟩
    exact ⟨shown.1, ht, by rw [← hextract]; rfl⟩

theorem show?_eq_error {f : NamingFault} :
    show? c.naming s = .error f ↔ c.naming.target s = .error f := by
  unfold show?
  rw [bind_eq_error]
  refine ⟨fun h => h.resolve_right ?_, Or.inl⟩
  rintro ⟨_, -, ⟨⟩⟩

theorem inspect_eq_ok {shown : List (Target × FieldSet)} :
    inspect c.naming candidates = .ok shown ↔
      List.Forall₂ (fun s p => show? c.naming s = .ok p) candidates shown :=
  mapM_eq_ok

theorem exists_first_of_inspect {f : NamingFault} (h : inspect c.naming candidates = .error f) :
    ∃ before s after, candidates = before ++ s :: after ∧
      (∀ s ∈ before, ∃ shown, show? c.naming s = .ok shown) ∧ show? c.naming s = .error f :=
  exists_of_mapM_eq_error h

theorem inspect_fails_iff : (∃ f, inspect c.naming candidates = .error f) ↔
    ∃ s ∈ candidates, ∃ f, c.naming.target s = .error f := by
  constructor
  · rintro ⟨f, hinspect⟩
    obtain ⟨before, s, after, rfl, -, hs⟩ := exists_first_of_inspect hinspect
    exact ⟨s, List.mem_append_right _ List.mem_cons_self, f, show?_eq_error.mp hs⟩
  · rintro ⟨s, hs, f, hname⟩
    cases hinspect : inspect c.naming candidates with
    | error f => exact ⟨f, rfl⟩
    | ok shown =>
      have hshown := inspect_eq_ok.mp hinspect
      obtain ⟨p, hpair⟩ := exists_mem_zip_left hshown hs
      have hnamed := (show?_eq_ok.mp (List.forall₂_zip hshown hpair)).1
      rw [hname] at hnamed
      cases hnamed

theorem isEmpty_of_draft {d : Draft} (hdraft : draft (b.templates c) t s.extract = .ok d) :
    s.extract.isEmpty = true ↔ d = .empty := by
  have hnone : emit (b.templates c) standardTemplate t s.extract.fields = .ok none ↔
      s.extract.fields = [] := emit_eq_none
  unfold FieldSet.isEmpty
  rw [List.isEmpty_iff, ← hnone]
  constructor
  · intro hemit
    unfold draft at hdraft
    rw [hemit] at hdraft
    cases hdraft
    rfl
  · rintro rfl
    exact draft_empty hdraft

/-- A candidate whose text is drafted has a model that declares the retained fields. -/
theorem shownBy_of_ready (hdraft : draft (b.templates c) t s.extract = .ok (.ready text))
    (htarget : outcome.target? = some t) (hdropped : outcome.dropped = s.extract.dropped)
    (hstatus : outcome.status ≠ .skipped) (htext : outcome.text? = some text) :
    ShownBy c outcome (t, s.extract) := by
  obtain ⟨-, m, hbuild, hemit⟩ := exists_build_of_emit (draft_eq_ready.mp hdraft)
  obtain ⟨i, hfrom⟩ := StructModel.build_ok hbuild
  have hretained : ¬s.extract.isEmpty = true := mt (isEmpty_of_draft hdraft).mp nofun
  refine ⟨htarget, hdropped, iff_of_false hstatus hretained, fun text' htext' => ?_⟩
  obtain rfl : text = text' := Option.some.inj (htext.symm.trans htext')
  exact ⟨b, m, hbuild, map_name_slots hfrom.slots, hemit⟩

theorem Treated.bearsOut (h : Treated k c o ready s b ready' outcome b') :
    BearsOut c outcome (show? c.naming s) := by
  have hshow {t : Target} (hname : c.naming.target s = .ok t) :
      show? c.naming s = .ok (t, s.extract) := show?_eq_ok.mpr ⟨hname, rfl⟩
  cases h with
  | unnamed hname =>
    rw [show?_eq_error.mpr hname]
    exact .unnamed ⟨rfl, rfl⟩ rfl
  | unrendered hname hdraft =>
    rw [hshow hname]
    exact .shown ⟨rfl, rfl, iff_of_false nofun (mt (isEmpty_of_draft hdraft).mp nofun), nofun⟩
  | skipped hname hdraft =>
    rw [hshow hname]
    exact .shown ⟨rfl, rfl, iff_of_true rfl ((isEmpty_of_draft hdraft).mpr rfl), nofun⟩
  | previewed hname hdraft =>
    rw [hshow hname]
    exact .shown (shownBy_of_ready hdraft rfl rfl nofun rfl)
  | unwritten hname hdraft =>
    rw [hshow hname]
    exact .shown (shownBy_of_ready hdraft rfl rfl nofun rfl)
  | written hname hdraft =>
    rw [hshow hname]
    exact .shown (shownBy_of_ready hdraft rfl rfl nofun rfl)

theorem bearsOut_of_handleAll
    (h : Work.handleAll k c o ready candidates b = (.ok outcomes, b')) :
    List.Forall₂ (fun s x => BearsOut c x (show? c.naming s)) candidates outcomes := by
  induction candidates generalizing ready b outcomes with
  | nil =>
    obtain ⟨rfl, -⟩ := pure_run_ok.mp h
    exact .nil
  | cons s rest ih =>
    obtain ⟨ready', outcome, outcomes', b₁, hhandle, hrest, rfl⟩ := Work.handleAll_cons_run_ok.mp h
    exact .cons (Work.treated_of_handle hhandle).bearsOut (ih hrest)

theorem not_isUnnamed_of_shownBy {shown : Target × FieldSet} (h : ShownBy c outcome shown) :
    ¬outcome.IsUnnamed := by
  rintro ⟨-, hnone⟩
  rw [h.target] at hnone
  cases hnone

theorem exists_first_unnamed {f : NamingFault}
    (h : List.Forall₂ (fun s x => BearsOut c x (show? c.naming s)) candidates outcomes)
    (hinspect : inspect c.naming candidates = .error f) :
    ∃ before x after, outcomes = before ++ x :: after ∧ (∀ y ∈ before, ¬y.IsUnnamed) ∧
      x.IsUnnamed ∧ x.error? = some f.message := by
  obtain ⟨before, s, after, rfl, hbefore, hs⟩ := exists_first_of_inspect hinspect
  obtain ⟨xs, ys, hxs, hys, rfl⟩ := exists_append_of_forall₂ h
  obtain _ | ⟨hx, -⟩ := hys
  rename_i x ys
  rw [hs] at hx
  obtain ⟨hunnamed, herror⟩ | - := hx
  refine ⟨xs, x, ys, rfl, fun y hy => ?_, hunnamed, herror⟩
  obtain ⟨s', hpair⟩ := exists_mem_zip_right hxs hy
  obtain ⟨shown, hshown⟩ := hbefore s' (List.of_mem_zip hpair).1
  have hy := List.forall₂_zip hxs hpair
  rw [hshown] at hy
  obtain - | hy := hy
  exact not_isUnnamed_of_shownBy hy

theorem forall₂_shownBy {shown : List (Target × FieldSet)}
    (h : List.Forall₂ (fun s x => BearsOut c x (show? c.naming s)) candidates outcomes)
    (hshow : List.Forall₂ (fun s p => show? c.naming s = .ok p) candidates shown) :
    List.Forall₂ (ShownBy c) outcomes shown := by
  induction h generalizing shown with
  | nil =>
    cases hshow
    exact .nil
  | cons hx _ ih =>
    obtain _ | ⟨hs, hrest⟩ := hshow
    rw [hs] at hx
    obtain - | hx := hx
    exact .cons hx (ih hrest)

theorem anticipates_of_bearsOut
    (h : List.Forall₂ (fun s x => BearsOut c x (show? c.naming s)) candidates outcomes) :
    Anticipates c (inspect c.naming candidates) ⟨outcomes⟩ where
  fails_iff := by
    constructor
    · rintro ⟨f, hinspect⟩
      obtain ⟨before, x, after, rfl, -, hunnamed, -⟩ := exists_first_unnamed h hinspect
      exact ⟨x, List.mem_append_right _ List.mem_cons_self, hunnamed⟩
    · rintro ⟨x, hx, hunnamed⟩
      cases hinspect : inspect c.naming candidates with
      | error f => exact ⟨f, rfl⟩
      | ok shown =>
        have hshown := forall₂_shownBy h (inspect_eq_ok.mp hinspect)
        obtain ⟨p, hpair⟩ := exists_mem_zip_left hshown hx
        exact absurd hunnamed (not_isUnnamed_of_shownBy (List.forall₂_zip hshown hpair))
  message f hinspect := by
    obtain ⟨before, x, after, rfl, hbefore, hunnamed, herror⟩ := exists_first_unnamed h hinspect
    have hfind : (before ++ x :: after).find? (·.IsUnnamed) = some x :=
      List.find?_eq_some_iff_append.mpr
        ⟨decide_eq_true hunnamed, before, after, rfl, by simpa using hbefore⟩
    rw [hfind]
    exact herror
  shows _ hinspect := forall₂_shownBy h (inspect_eq_ok.mp hinspect)

end Outcomes

end StructForge.Batch

namespace StructForge.Cli

open Files Schema Batch Discovery

section Main

variable {c : Config} {candidates : List Source} {p : Program} {l : CommandLine} {t : Tree}
  {loaded : LogRecord} {found : Found}

theorem carryOut_inspect (hl : l.command = .inspect)
    (hopen : openProject t (.ofText l.choices.path) none = .ok (c, loaded))
    (hfind : findClasses p c l.choices.modules l.choices.includeEntries = .ok found) :
    (carryOut p l t).1 = match inspect c.naming found.described with
      | .error f => .ofFault .inspect ⟨.badValue, f.message⟩
      | .ok shown => .ofInspection shown found.failures := by
  unfold carryOut inspectProject
  simp only [hl, hopen, hfind]
  cases inspect c.naming found.described <;> rfl

/-- An inspection fails exactly over candidates that cannot be named, and otherwise shows the names
and the classified fields of each. It anticipates the report of every batch of the same candidates,
whatever becomes of their texts and however its failures are raised. The command that inspects
leaves the files alone, and a naming failure is a value that cannot be read to it. -/
theorem inspection_anticipates (c : Config) (candidates : List Source) :
    ((∃ f, inspect c.naming candidates = .error f) ↔
      ∃ s ∈ candidates, ∃ f, c.naming.target s = .error f) ∧
    (∀ shown, inspect c.naming candidates = .ok shown →
      List.Forall₂ (fun s p => c.naming.target s = .ok p.1 ∧ p.2 = s.extract) candidates shown) ∧
    (∀ k o raiseOnError b conclusion b',
      Work.generateTo k c o raiseOnError candidates b = (.ok conclusion, b') →
        Anticipates c (inspect c.naming candidates) conclusion.report) ∧
    ∀ p l t, l.command = .inspect → (carryOut p l t).2.1 = t ∧
      ∀ loaded found, openProject t (.ofText l.choices.path) none = .ok (c, loaded) →
        findClasses p c l.choices.modules l.choices.includeEntries = .ok found →
        found.described = candidates →
        (carryOut p l t).1 = match inspect c.naming candidates with
          | .error f => .ofFault .inspect ⟨.badValue, f.message⟩
          | .ok shown => .ofInspection shown found.failures := by
  refine ⟨inspect_fails_iff, ?_, ?_, ?_⟩
  · intro shown hinspect
    exact (inspect_eq_ok.mp hinspect).imp fun _ _ => show?_eq_ok.mp
  · intro k o raiseOnError b conclusion b' h
    obtain ⟨report, hrun, rfl⟩ := generateTo_run_ok.mp h
    obtain ⟨b₁, hall⟩ := handleAll_of_runTo hrun
    rw [report.report_conclude]
    exact anticipates_of_bearsOut (bearsOut_of_handleAll hall)
  · rintro p l t hl
    have htree : (carryOut p l t).2.1 = t := by
      unfold carryOut
      rw [hl]
    refine ⟨htree, ?_⟩
    rintro loaded found hopen hfind rfl
    exact carryOut_inspect hl hopen hfind

/-- Of five candidates the first one cannot be named. The inspection of the other four shows one
without fields, which the batch skips, and anticipates one that is written and two that fail. -/
theorem inspection_anticipates_mixedBatch :
    let c := Config.defaults (.ofText "/game")
    (∃ f, inspect c.naming mixedBatch = .error f) ∧
    ∃ shown conclusion b', inspect c.naming (mixedBatch.drop 1) = .ok shown ∧
      shown.map (·.1.typeName) = ["NativeSwitch", "NativeLabel", "NativeUnit", "NativeRival"] ∧
      Work.generate c {} true (mixedBatch.drop 1) refusingBench = (.ok conclusion, b') ∧
      conclusion.report.outcomes.map (·.status) = [.failed, .skipped, .written, .failed] ∧
      List.Forall₂ (ShownBy c) conclusion.report.outcomes shown := by
  intro c
  have hunnamed : ∃ s ∈ mixedBatch, ∃ f, c.naming.target s = .error f :=
    ⟨_, List.mem_cons_self, ⟨"NativeOld Unit"⟩, if_neg (by decide +kernel)⟩
  obtain ⟨shown, hshown, hnames⟩ : ∃ shown, inspect c.naming (mixedBatch.drop 1) = .ok shown ∧
      shown.map (·.1.typeName) = ["NativeSwitch", "NativeLabel", "NativeUnit", "NativeRival"] := by
    apply exists_of_any
    decide +kernel
  obtain ⟨conclusion, hanswer, hstatuses⟩ : ∃ conclusion,
      (Work.generate c {} true (mixedBatch.drop 1) refusingBench).1 = .ok conclusion ∧
      conclusion.report.outcomes.map (·.status) = [.failed, .skipped, .written, .failed] := by
    apply exists_of_any
    decide +kernel
  have hrun := eq_mk_of_fst_eq hanswer
  obtain ⟨hfails, -⟩ := inspection_anticipates c mixedBatch
  obtain ⟨-, -, hanticipates, -⟩ := inspection_anticipates c (mixedBatch.drop 1)
  exact ⟨hfails.mpr hunnamed, shown, conclusion, _, hshown, hnames, hrun, hstatuses,
    (hanticipates _ _ _ _ _ _ hrun).shows shown hshown⟩

end Main

end StructForge.Cli

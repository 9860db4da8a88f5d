import StructForge.Proofs.Batch.Drafting
import StructForge.Proofs.Batch.Treatment

/-! # What a report accounts for

A report has one outcome for each candidate, in order. The outcome says which stage of the treatment
was the last: naming, emission, the making of the output directory, or the writing of the text. A
batch that raises its failures does so after the last candidate, with the report that it would have
returned. -/

namespace StructForge.Batch

open Files Schema Struct

section Stages

variable {k : Outlet} {ready ready' : Bool} {name text : String} {b b' : Bench}
  {answer : Except Fault Path}

/-- Whether making the directory or writing the text ends with an error of the file system. -/
def Outlet.Refuses (k : Outlet) (ready : Bool) (name text : String) (b : Bench) : Prop :=
  (ready = false ∧ ∃ f b', k.ensureDirectory b = (.error f, b') ∧ f.kind.isOs = true) ∨
    ∃ b₁ f b', k.Readies ready b b₁ ∧ k.write name text b₁ = (.error f, b') ∧ f.kind.isOs = true

theorem Outlet.Readies.eq {b₁ b₂ : Bench} (h₁ : k.Readies ready b b₁) (h₂ : k.Readies ready b b₂) :
    b₁ = b₂ := by
  cases h₁ with
  | known hready =>
    cases h₂ with
    | known => rfl
    | made hready' => rw [hready] at hready'; cases hready'
  | made hready hmade =>
    cases h₂ with
    | known hready' => rw [hready] at hready'; cases hready'
    | made _ hmade' =>
      rw [hmade, Prod.mk.injEq] at hmade'
      exact hmade'.2

theorem Outlet.Saves.refuses {f : Fault} (h : k.Saves ready name text b ready' (.error f) b') :
    k.Refuses ready name text b := by
  cases h with
  | noDirectory hready hmade hos => exact .inl ⟨hready, f, b', hmade, hos⟩
  | unwritten hready hwrite hos => exact .inr ⟨_, f, b', hready, hwrite, hos⟩

theorem Outlet.Saves.not_refuses {path : Path}
    (h : k.Saves ready name text b ready' (.ok path) b') : ¬k.Refuses ready name text b := by
  cases h with
  | written hready hwrite =>
    rintro (⟨hunknown, f, b₂, hmade, -⟩ | ⟨b₂, f, b₃, hready', hwrite', -⟩)
    · cases hready with
      | known hknown => rw [hunknown] at hknown; cases hknown
      | made _ hmade' => rw [hmade] at hmade'; cases hmade'
    · rw [hready.eq hready', hwrite'] at hwrite
      cases hwrite

theorem Outlet.Saves.ready_iff (h : k.Saves ready name text b ready' answer b') :
    ready' = true ↔ ready = true ∨ ∃ dir b₁, k.ensureDirectory b = (.ok dir, b₁) := by
  have hreadies {b₁ : Bench} (hready : k.Readies ready b b₁) :
      ready = true ∨ ∃ dir b₁, k.ensureDirectory b = (.ok dir, b₁) := by
    cases hready with
    | known hknown => exact .inl hknown
    | made _ hmade => exact .inr ⟨_, _, hmade⟩
  cases h with
  | noDirectory hready hmade =>
    have hnot : ¬∃ dir b₁, k.ensureDirectory b = (.ok dir, b₁) := by
      rintro ⟨dir, b₁, hmade'⟩
      rw [hmade] at hmade'
      cases hmade'
    simp [hready, hnot]
  | unwritten hready => exact iff_of_true rfl (hreadies hready)
  | written hready => exact iff_of_true rfl (hreadies hready)

end Stages

/-- The text of a candidate, as its emission at a bench ends. -/
def emission (c : Config) (s : Source) (b : Bench) (t : Target) :
    Except EmitFault (Option String) :=
  emit (b.templates c) standardTemplate t s.extract.fields

/-- What the outcome of a candidate accounts for. The parts are in the order of the stages: each of
them is about candidates that came through the stages before it. -/
structure Accounts (k : Outlet) (c : Config) (o : Options) (ready : Bool) (s : Source) (b : Bench)
    (ready' : Bool) (outcome : Outcome) : Prop where
  source : outcome.source = s.name
  unnamed_iff : outcome.status = .failed ∧ outcome.target? = none ↔
    ∃ f, c.naming.target s = .error f
  target : ∀ t, c.naming.target s = .ok t → outcome.target? = some t
  unrendered_iff : ∀ t, c.naming.target s = .ok t →
    (outcome.status = .failed ∧ outcome.text? = none ↔
      ∃ e, emission c s b t = .error e ∧ e.IsRecorded)
  skipped_iff : ∀ t, c.naming.target s = .ok t →
    (outcome.status = .skipped ↔ ∀ f ∈ s.fields, classify f.type = none)
  text : ∀ t, c.naming.target s = .ok t → ∀ text, emission c s b t = .ok (some text) →
    outcome.text? = some text
  previewed_iff : ∀ t, c.naming.target s = .ok t → ∀ text, emission c s b t = .ok (some text) →
    (outcome.status = .previewed ↔ o.dryRun = true)
  unwritten_iff : ∀ t, c.naming.target s = .ok t → ∀ text, emission c s b t = .ok (some text) →
    o.dryRun = false →
    (outcome.status = .failed ↔ k.Refuses ready t.fileName text (b.rendered c s t))
  written_iff : ∀ t, c.naming.target s = .ok t → ∀ text, emission c s b t = .ok (some text) →
    o.dryRun = false →
    (outcome.status = .written ↔ ¬k.Refuses ready t.fileName text (b.rendered c s t))
  error_iff : outcome.error?.isSome ↔ outcome.status = .failed
  path_iff : outcome.path?.isSome ↔ outcome.status = .written ∨ outcome.status = .previewed
  ready_iff : ready' = true ↔ ready = true ∨ ∃ t, c.naming.target s = .ok t ∧
    (∃ text, emission c s b t = .ok (some text)) ∧ o.dryRun = false ∧
    ∃ dir b₁, k.ensureDirectory (b.rendered c s t) = (.ok dir, b₁)

theorem Treated.accounts {k : Outlet} {c : Config} {o : Options} {ready ready' : Bool} {s : Source}
    {b b' : Bench} {outcome : Outcome} (h : Treated k c o ready s b ready' outcome b') :
    Accounts k c o ready s b ready' outcome := by
  have hdrop (t : Target) :
      (∀ f ∈ s.fields, classify f.type = none) ↔ emission c s b t = .ok none :=
    extract_fields_eq_nil.symm.trans emit_eq_none.symm
  cases h with
  | unnamed hname =>
    constructor <;>
      simp [hname, Outcome.source, Outcome.status, Outcome.target?, Outcome.error?, Outcome.path?]
  | @unrendered t _ _ hname hdraft =>
    obtain ⟨e, hemit, hrecorded, -⟩ := draft_unrendered hdraft
    change emission c s b t = _ at hemit
    constructor <;>
      simp [hname, hdrop t, hemit, hrecorded, Outcome.source, Outcome.status, Outcome.target?,
        Outcome.text?, Outcome.error?, Outcome.path?]
  | @skipped t _ hname hdraft =>
    have hemit : emission c s b t = .ok none := draft_empty hdraft
    constructor <;>
      simp [hname, hdrop t, hemit, Outcome.source, Outcome.status, Outcome.target?, Outcome.text?,
        Outcome.error?, Outcome.path?]
  | @previewed t text _ hname hdraft hdry =>
    have hemit : emission c s b t = .ok (some text) := draft_eq_ready.mp hdraft
    constructor <;>
      simp [hname, hdrop t, hemit, hdry, Outcome.source, Outcome.status, Outcome.target?,
        Outcome.text?, Outcome.error?, Outcome.path?]
  | @unwritten _ t text f _ _ hname hdraft hdry hsave =>
    have hemit : emission c s b t = .ok (some text) := draft_eq_ready.mp hdraft
    constructor <;>
      simp [hname, hdrop t, hemit, hdry, hsave.refuses, hsave.ready_iff, Outcome.source,
        Outcome.status, Outcome.target?, Outcome.text?, Outcome.error?, Outcome.path?]
  | @written _ t text path _ _ hname hdraft hdry hsave =>
    have hemit : emission c s b t = .ok (some text) := draft_eq_ready.mp hdraft
    constructor <;>
      simp [hname, hdrop t, hemit, hdry, hsave.not_refuses, hsave.ready_iff, Outcome.source,
        Outcome.status, Outcome.target?, Outcome.text?, Outcome.error?, Outcome.path?]

/-- Outcomes that account for candidates in order, each at the bench that the one before it left. -/
inductive AccountsAll (k : Outlet) (c : Config) (o : Options) :
    Bool → List Source → Bench → List Outcome → Bench → Prop
  | nil {ready : Bool} {b : Bench} : AccountsAll k c o ready [] b [] b
  | cons {ready ready' : Bool} {s : Source} {rest : List Source} {b b' b'' : Bench}
      {outcome : Outcome} {outcomes : List Outcome}
      (hhandle : Work.handle k c o ready s b = (.ok (ready', outcome), b'))
      (head : Accounts k c o ready s b ready' outcome)
      (tail : AccountsAll k c o ready' rest b' outcomes b'') :
      AccountsAll k c o ready (s :: rest) b (outcome :: outcomes) b''

section Main

variable {k : Outlet} {c : Config} {o : Options} {ready raiseOnError : Bool}
  {candidates : List Source} {b b' : Bench} {outcomes : List Outcome} {report : Report}
  {conclusion : Conclusion}

theorem AccountsAll.sources (h : AccountsAll k c o ready candidates b outcomes b') :
    outcomes.map (·.source) = candidates.map (·.name) := by
  induction h with
  | nil => rfl
  | cons _ head _ ih => rw [List.map_cons, List.map_cons, head.source, ih]

theorem accountsAll_of_handleAll
    (h : Work.handleAll k c o ready candidates b = (.ok outcomes, b')) :
    AccountsAll k c o ready candidates b outcomes b' := by
  induction candidates generalizing ready b outcomes with
  | nil =>
    obtain ⟨rfl, rfl⟩ := pure_run_ok.mp h
    exact .nil
  | cons s rest ih =>
    obtain ⟨ready', outcome, outcomes', b₁, hhandle, hrest, rfl⟩ := Work.handleAll_cons_run_ok.mp h
    exact .cons hhandle (Work.treated_of_handle hhandle).accounts (ih hrest)

theorem handleAll_of_runTo (h : Work.runTo k c o candidates b = (.ok report, b')) :
    ∃ b₁, Work.handleAll k c o false candidates b = (.ok report.outcomes, b₁) := by
  obtain ⟨outcomes, b₁, hall, h⟩ := bind_run_ok.mp h
  refine ⟨b₁, ?_⟩
  cases hempty : (Report.mk outcomes).written.isEmpty with
  | true =>
    simp only [hempty] at h
    obtain ⟨rfl, -⟩ := Work.say_return_run_ok h
    exact hall
  | false =>
    simp only [hempty] at h
    obtain ⟨-, b₂, -, h⟩ := bind_run_ok.mp h
    obtain ⟨rfl, -⟩ := Work.say_return_run_ok h
    exact hall

theorem generateTo_run_ok :
    Work.generateTo k c o raiseOnError candidates b = (.ok conclusion, b') ↔
      ∃ report, Work.runTo k c o candidates b = (.ok report, b') ∧
        report.conclude raiseOnError = conclusion := by
  unfold Work.generateTo
  simp only [bind_run_ok, pure_run_ok]
  constructor
  · rintro ⟨report, _, hrun, hconclude, rfl⟩
    exact ⟨report, hrun, hconclude⟩
  · rintro ⟨report, hrun, hconclude⟩
    exact ⟨report, b', hrun, hconclude, rfl⟩

theorem Report.report_conclude (r : Report) (raiseOnError : Bool) :
    (r.conclude raiseOnError).report = r := by
  unfold conclude
  cases r.fault? with
  | none => rfl
  | some f => cases raiseOnError <;> rfl

theorem Report.isOk_iff (r : Report) : r.isOk = false ↔ ∃ x ∈ r.outcomes, x.status = .failed := by
  simp [isOk, failed, withStatus]

theorem Report.raised?_conclude (r : Report) (raiseOnError : Bool) :
    ((r.conclude raiseOnError).raised?.isSome ↔
      raiseOnError = true ∧ ∃ x ∈ r.outcomes, x.status = .failed) ∧
    ∀ f, (r.conclude raiseOnError).raised? = some f → f.kind = .generation := by
  rw [← isOk_iff]
  unfold conclude fault?
  cases r.isOk <;> cases raiseOnError <;> simp [Conclusion.raised?]

/-- A batch that ends accounts for its candidates one by one. Whether it raises its failures changes
neither its report nor what it leaves. -/
theorem accounts_of_generate
    (h : Work.generateTo k c o raiseOnError candidates b = (.ok conclusion, b')) :
    conclusion.report.outcomes.map (·.source) = candidates.map (·.name) ∧
    (∃ b₁, AccountsAll k c o false candidates b conclusion.report.outcomes b₁) ∧
    (conclusion.raised?.isSome ↔
      raiseOnError = true ∧ ∃ x ∈ conclusion.report.outcomes, x.status = .failed) ∧
    (∀ f, conclusion.raised? = some f → f.kind = .generation) ∧
    Work.generateTo k c o false candidates b = (.ok (.returned conclusion.report), b') ∧
    Work.generateTo k c o true candidates b = (.ok (conclusion.report.conclude true), b') := by
  obtain ⟨report, hrun, rfl⟩ := generateTo_run_ok.mp h
  rw [report.report_conclude]
  obtain ⟨b₁, hall⟩ := handleAll_of_runTo hrun
  have haccounts := accountsAll_of_handleAll hall
  obtain ⟨hraised, hkind⟩ := report.raised?_conclude raiseOnError
  have hreturned : report.conclude false = .returned report := by
    unfold Report.conclude
    cases report.fault? <;> rfl
  exact ⟨haccounts.sources, ⟨b₁, haccounts⟩, hraised, hkind,
    generateTo_run_ok.mpr ⟨report, hrun, hreturned⟩, generateTo_run_ok.mpr ⟨report, hrun, rfl⟩⟩

/-- Five candidates: one cannot be named, one not emitted, one has no fields to keep, one can be
written, and the file of the last one is refused by a sink that refuses `NativeRival.py`. -/
def mixedBatch : List Source :=
  let int : TypeRef := .mk "int" "builtins" "int" .primitive [] false
  [("Old Unit", []), ("Switch", [⟨"default", int⟩]),
    ("Label", [⟨"text", .mk "str" "builtins" "str" .other [] false⟩]), ("Unit", [⟨"hp", int⟩]),
    ("Rival", [⟨"hp", int⟩])].map fun (name, fields) => ⟨name, "game.units", name, fields⟩

/-- A bench with no files, and a sink below the root that refuses one name. -/
def refusingBench : Bench :=
  { tree := {}, sink := { outputDir := .ofText "/native", readOnly := ["NativeRival.py"] } }

theorem statuses_mixedBatch :
    ((Work.generate (.defaults (.ofText "/game")) {} true mixedBatch refusingBench).1.toOption.map
      fun conclusion => conclusion.report.outcomes.map (·.status)) =
      some [.failed, .failed, .skipped, .written, .failed] := by
  decide +kernel

/-- A batch that raises its three failures accounts for its five candidates. -/
theorem accounts_mixedBatch :
    ∃ report f b',
      Work.generate (.defaults (.ofText "/game")) {} true mixedBatch refusingBench =
        (.ok (.raised f report), b') ∧
      report.outcomes.map (·.source) = ["Old Unit", "Switch", "Label", "Unit", "Rival"] ∧
      report.outcomes.map (·.status) = [.failed, .failed, .skipped, .written, .failed] ∧
      f.kind = .generation ∧
      Work.generate (.defaults (.ofText "/game")) {} false mixedBatch refusingBench =
        (.ok (.returned report), b') := by
  have hstatuses := statuses_mixedBatch
  rcases hrun : Work.generate (.defaults (.ofText "/game")) {} true mixedBatch refusingBench with
    ⟨f | conclusion, b'⟩
  · rw [hrun] at hstatuses
    cases hstatuses
  · rw [hrun] at hstatuses
    obtain ⟨hsources, -, hraised, hkind, hreturned, -⟩ := accounts_of_generate hrun
    have hstatuses : conclusion.report.outcomes.map (·.status) =
        [.failed, .failed, .skipped, .written, .failed] := Option.some.inj hstatuses
    have hfailed : ∃ x ∈ conclusion.report.outcomes, x.status = .failed := by
      have hmem : Status.failed ∈ conclusion.report.outcomes.map (·.status) := by
        rw [hstatuses]
        exact List.mem_cons_self
      exact List.mem_map.mp hmem
    cases conclusion with
    | returned report => simp [Conclusion.raised?, hfailed] at hraised
    | raised f report => exact ⟨report, f, b', rfl, hsources, hstatuses, hkind f rfl, hreturned⟩

end Main

end StructForge.Batch

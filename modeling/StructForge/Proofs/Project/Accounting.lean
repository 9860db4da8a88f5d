import StructForge.Proofs.Batch.Accounting
import StructForge.Proofs.Discovery.SearchReport

/-! # What the report of a project accounts for

Every class that a project finds has one outcome in its report: a failed one ahead of the others if
it cannot be described, and otherwise the one that its batch gives it. Workshops keep nothing of the
projects that are run from them. -/

namespace StructForge

open Files Schema Live Batch Discovery

section Found

variable {p : Program} {c : Config} {modules : List String} {included : Option Bool} {found : Found}

def Program.projectLeads (p : Program) (c : Config) (modules : List String)
    (included : Option Bool) : List Lead :=
  p.leads (joinNames c.modules modules) (included.getD c.entryPoints)

theorem reports_of_findClasses (h : findClasses p c modules included = .ok found) :
    ∃ cs last, Collects p.load p.registry (p.projectLeads c modules included) cs last ∧
      Reports p.comparison last (firstOnly [] cs) found.described found.failures := by
  obtain ⟨found', hdiscover, hfound⟩ := bind_eq_ok.mp h
  cases hfound
  obtain ⟨cs, last, hcollects, hreports⟩ := reports_of_discover hdiscover
  exact ⟨cs, last, hcollects, hreports⟩

end Found

namespace Workshop

/-! ## Runs of projects -/

section Run

variable {p : Program} {q : ProjectRequest} {t : Tree} {config : Config} {loaded : LogRecord}
  {found : Found} {report : Report} {b : Bench} {w : Workshop} {raiseOnError : Bool}

theorem run_eq {o : Options} {candidates : List Source} {log : List LogRecord}
    {result : Except Fault Report}
    (h : Work.run w.config o candidates (w.bench t log) = (result, b)) :
    w.run o candidates t log =
      (result, { w with sink := b.sink, standardLoaded := b.standardLoaded }, b.tree, b.log) := by
  unfold run
  rw [h]

/-- A project whose batch ends is concluded with all its outcomes, and leaves the workshop. -/
theorem runProject_ok (hopen : openProject t q.path q.outputDir = .ok (config, loaded))
    (hfound : findClasses p config q.modules q.includeEntries = .ok found)
    (hrun : Work.run config ⟨q.dryRun⟩ found.described
      ((ofConfig config).bench t (loaded :: found.log)) = (.ok report, b)) :
    w.runProject p q raiseOnError t =
      (.ok ((⟨found.failures.map failureOutcome ++ report.outcomes⟩ : Report).conclude
        raiseOnError), w, b.tree, b.log) := by
  have hproject : forProject t q.path q.outputDir = .ok (ofConfig config, loaded) := by
    unfold forProject
    rw [hopen]
    rfl
  let project : Workshop :=
    { ofConfig config with failures := found.failures.map failureOutcome }
  have hdiscover : (ofConfig config).discover p q.modules q.includeEntries =
      (.ok found, project) := by
    simp only [discover, ofConfig, hfound, List.nil_append, project]
  have hbatch : project.run ⟨q.dryRun⟩ found.described t (loaded :: found.log) =
      (.ok report, { project with sink := b.sink, standardLoaded := b.standardLoaded }, b.tree,
        b.log) := run_eq hrun
  unfold runProject
  simp only [hproject, hdiscover, hbatch]
  rfl

/-- A project is concluded only after it was opened and searched, and after its batch has ended. -/
theorem exists_of_runProject_ok {conclusion : Conclusion}
    (h : (w.runProject p q raiseOnError t).1 = .ok conclusion) :
    ∃ config loaded found report b, openProject t q.path q.outputDir = .ok (config, loaded) ∧
      findClasses p config q.modules q.includeEntries = .ok found ∧
      Work.run config ⟨q.dryRun⟩ found.described
        ((ofConfig config).bench t (loaded :: found.log)) = (.ok report, b) := by
  unfold runProject forProject discover run at h
  cases hopen : openProject t q.path q.outputDir with
  | error f =>
    rw [hopen] at h
    cases h
  | ok opened =>
    obtain ⟨config, loaded⟩ := opened
    simp only [hopen, bind, Except.bind, pure, Except.pure] at h
    cases hfound : findClasses p config q.modules q.includeEntries with
    | error f =>
      simp only [ofConfig, hfound] at h
      cases h
    | ok found =>
      rcases hrun : Work.run config ⟨q.dryRun⟩ found.described
        ((ofConfig config).bench t (loaded :: found.log)) with ⟨f | report, b⟩
      · simp only [bench, ofConfig] at hrun
        simp only [ofConfig, hfound, bench, hrun] at h
        cases h
      · exact ⟨config, loaded, found, report, b, rfl, hfound, hrun⟩

theorem runProject_eq (own : Workshop) :
    w.runProject p q raiseOnError t =
      ((own.runProject p q raiseOnError t).1, w, (own.runProject p q raiseOnError t).2.2) := by
  unfold runProject
  cases forProject t q.path q.outputDir with
  | error f => rfl
  | ok opened =>
    obtain ⟨project, loaded⟩ := opened
    cases hdiscover : project.discover p q.modules q.includeEntries with
    | mk result project' =>
      cases result with
      | error f => simp only [hdiscover]
      | ok found => simp only [hdiscover]

end Run

/-! ## Projects one after the other -/

/-- A project to be run, after the files have changed by other means. -/
structure Call where
  meanwhile : Tree → Tree
  program : Program
  request : ProjectRequest
  raiseOnError : Bool

def runEach (w : Workshop) : List Call → Tree → List (Except Fault Conclusion) × Workshop × Tree
  | [], t => ([], w, t)
  | c :: rest, t =>
    let (answer, w, t, _) := w.runProject c.program c.request c.raiseOnError (c.meanwhile t)
    let (answers, w, t) := runEach w rest t
    (answer :: answers, w, t)

def runApart (own : Call → Workshop) : List Call → Tree → List (Except Fault Conclusion) × Tree
  | [], t => ([], t)
  | c :: rest, t =>
    let (answer, _, t, _) := (own c).runProject c.program c.request c.raiseOnError (c.meanwhile t)
    let (answers, t) := runApart own rest t
    (answer :: answers, t)

theorem runEach_eq {w : Workshop} (own : Call → Workshop) {calls : List Call} {t : Tree} :
    w.runEach calls t = ((runApart own calls t).1, w, (runApart own calls t).2) := by
  induction calls generalizing t with
  | nil => rfl
  | cons c rest ih =>
    unfold runEach runApart
    rw [runProject_eq (own c)]
    simp only [ih]

section Main

variable {p : Program} {q : ProjectRequest} {t : Tree} {config : Config} {loaded : LogRecord}
  {found : Found} {report : Report} {b : Bench}

/-- A project that can be opened and searched, and whose batch ends, reports one outcome for each
class that is met: a failed one for each class that cannot be described, and then those of the
batch. Its failures are raised at the end and only if that is asked for; whether they are changes
nothing else. From any workshop the answer is the same, and so it stays over any number of calls. -/
theorem accounts_of_runProject (hopen : openProject t q.path q.outputDir = .ok (config, loaded))
    (hfound : findClasses p config q.modules q.includeEntries = .ok found)
    (hrun : Work.run config ⟨q.dryRun⟩ found.described
      ((ofConfig config).bench t (loaded :: found.log)) = (.ok report, b)) :
    ∃ (cs firsts : List ClassRef) (last : Registry) (undescribed : List Outcome)
      (total : Report),
      Collects p.load p.registry (p.projectLeads config q.modules q.includeEntries) cs last ∧
      Firsts cs firsts ∧
      Reports p.comparison last firsts found.described found.failures ∧
      (found.failures.map failureKey ++ found.described.map sourceKey).Perm
        (firsts.map classKey) ∧
      (firsts.map classKey).Nodup ∧
      total.outcomes = undescribed ++ report.outcomes ∧
      List.Forall₂ (fun f x => x.status = .failed ∧ x.source = f.label.name ∧
        x.error? = some f.message) found.failures undescribed ∧
      List.Forall₂ (fun s x => x.source = s.name) found.described report.outcomes ∧
      (∀ (w : Workshop) raiseOnError, w.runProject p q raiseOnError t =
        (.ok (total.conclude raiseOnError), w, b.tree, b.log)) ∧
      (∀ raiseOnError, (total.conclude raiseOnError).report = total ∧
        ((total.conclude raiseOnError).raised?.isSome ↔
          raiseOnError = true ∧ ∃ x ∈ total.outcomes, x.status = .failed) ∧
        ∀ f, (total.conclude raiseOnError).raised? = some f → f.kind = .generation) ∧
      ∀ (w : Workshop) (own : Call → Workshop) (calls : List Call) (t₀ : Tree),
        w.runEach calls t₀ = ((runApart own calls t₀).1, w, (runApart own calls t₀).2) := by
  obtain ⟨cs, last, hcollects, hreports⟩ := reports_of_findClasses hfound
  refine ⟨cs, _, last, found.failures.map failureOutcome, ⟨_⟩, hcollects, firsts_firstOnly,
    hreports, List.perm_append_comm.trans hreports.perm, firsts_firstOnly.nodup, rfl, ?_, ?_,
    fun w raiseOnError => runProject_ok hopen hfound hrun, fun raiseOnError =>
    ⟨Report.report_conclude _ _, Report.raised?_conclude _ _⟩, fun w own calls t₀ => runEach_eq own⟩
  · rw [List.forall₂_map_right_iff, List.forall₂_same]
    exact fun f _ => ⟨rfl, rfl, rfl⟩
  · obtain ⟨b₁, hall⟩ := handleAll_of_runTo hrun
    have hsources : List.Forall₂ (· = ·) (report.outcomes.map (·.source))
        (found.described.map (·.name)) := by
      rw [List.forall₂_eq_eq_eq]
      exact (accountsAll_of_handleAll hall).sources
    rw [List.forall₂_map_left_iff, List.forall₂_map_right_iff] at hsources
    exact hsources.flip

theorem eq_of_report {conclusion : Conclusion} (h : conclusion.report = report) :
    conclusion = .returned report ∨
      ∃ f, conclusion = .raised f report ∧ conclusion.raised? = some f := by
  subst h
  cases conclusion with
  | returned report => exact .inl rfl
  | raised f report => exact .inr ⟨f, rfl, rfl⟩

def musterRequest : ProjectRequest := { path := .ofText "/game", modules := ["game.units"] }

theorem outcomes_muster :
    (((ofConfig (.defaults (.ofText "/game"))).runProject { registry := muster [] } musterRequest
      true {}).1.toOption.any fun conclusion => decide
        (conclusion.report.outcomes.map (fun x => (x.source, x.status)) =
          [("Squad", .failed), ("Unit", .written)])) = true := by
  decide +kernel

/-- The class that cannot be described fails ahead of the one whose struct is written, and only
after that the failure is raised. Without raising it, the files are the same. -/
theorem accounts_muster :
    ∃ (f : Fault) (report : Report) (b : Bench), f.kind = .generation ∧
      report.outcomes.map (fun x => (x.source, x.status)) =
        [("Squad", .failed), ("Unit", .written)] ∧
      ∀ w : Workshop,
        w.runProject { registry := muster [] } musterRequest true {} =
          (.ok (.raised f report), w, b.tree, b.log) ∧
        w.runProject { registry := muster [] } musterRequest false {} =
          (.ok (.returned report), w, b.tree, b.log) := by
  obtain ⟨conclusion, hok, houtcomes⟩ := exists_of_any outcomes_muster
  obtain ⟨config, loaded, found, report, b, hopen, hfound, hrun⟩ := exists_of_runProject_ok hok
  obtain ⟨-, -, -, -, total, -, -, -, -, -, -, -, -, hall, hconclude, -⟩ :=
    accounts_of_runProject hopen hfound hrun
  obtain ⟨hraisedReport, hraised, hkind⟩ := hconclude true
  obtain ⟨hreturnedReport, hreturned, -⟩ := hconclude false
  have hconclusion : conclusion.report = total := by
    rw [hall] at hok
    rw [← Except.ok.inj hok, hraisedReport]
  rw [hconclusion] at houtcomes
  have hfailed : ∃ x ∈ total.outcomes, x.status = .failed := by
    have hmem : ("Squad", Status.failed) ∈ total.outcomes.map fun x => (x.source, x.status) := by
      rw [houtcomes]
      exact List.mem_cons_self
    obtain ⟨x, hx, hstatus⟩ := List.mem_map.mp hmem
    exact ⟨x, hx, congrArg Prod.snd hstatus⟩
  have hsome := hraised.mpr ⟨rfl, hfailed⟩
  have hnone : ¬(total.conclude false).raised?.isSome := fun h => nomatch (hreturned.mp h).1
  rcases eq_of_report hraisedReport with htrue | ⟨f, htrue, hf⟩
  · rw [htrue] at hsome
    cases hsome
  rcases eq_of_report hreturnedReport with hfalse | ⟨f', hfalse, hf'⟩
  · refine ⟨f, total, b, hkind f hf, houtcomes, fun w => ⟨?_, ?_⟩⟩
    · rw [hall, htrue]
    · rw [hall, hfalse]
  · rw [hf'] at hnone
    exact absurd rfl hnone

end Main

end Workshop

end StructForge

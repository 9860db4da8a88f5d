import StructForge.Cli.Session
import StructForge.Proofs.Steps

/-! # Failures before the first class

A project may fail before any of its classes is handled: when it is opened, or when its classes are
looked for. Generation and inspection fail alike then, except for values that cannot be read, which
only inspection handles. -/

namespace StructForge.Cli

open Files Schema Batch Discovery

/-- What a command line asks for fails before a class is handled, with some records until then. -/
inductive FailsEarly (p : Program) (c : Choices) (t : Tree) : Fault → List LogRecord → Prop
  | unopened {f : Fault} (h : openProject t (.ofText c.path) none = .error f) :
      FailsEarly p c t f []
  | unsearched {config : Config} {loaded : LogRecord} {f : SearchFault}
      (hopen : openProject t (.ofText c.path) none = .ok (config, loaded))
      (h : findClasses p config c.modules c.includeEntries = .error f) :
      FailsEarly p c t f.fault (loaded :: f.log)

structure AskAlike (lg li : CommandLine) : Prop where
  generates : lg.command = .generate
  inspects : li.command = .inspect
  path : lg.choices.path = li.choices.path
  modules : lg.choices.modules = li.choices.modules
  entries : lg.choices.includeEntries = li.choices.includeEntries
  verbose : lg.verbose = li.verbose
  logFile : lg.logFile = li.logFile

namespace Session

def Reports (s : Session) (f : Fault) : Prop :=
  s.ending.result = .ok 1 ∧
    ∃ before after, s.ending.printed.complaint = before ++ f.message ++ after

def LetsOut (s : Session) (f : Fault) : Prop := s.ending.result = .error f

def EndAlike (f : Fault) (s s' : Session) : Prop :=
  (s.Reports f ∧ s'.Reports f) ∨ (s.LetsOut f ∧ s'.LetsOut f)

end Session

section Commands

variable {p : Program} {c c' : Choices} {t t' : Tree} {f : Fault} {log : List LogRecord}

/-- Another directory for the output changes nothing else about opening a project. -/
theorem openProject_outputDir (t : Tree) (path : Path) (outputDir : Option Path) :
    (∀ f, openProject t path none = .error f → openProject t path outputDir = .error f) ∧
    ∀ config loaded, openProject t path none = .ok (config, loaded) →
      ∃ dir, openProject t path outputDir = .ok ({ config with outputDir := dir }, loaded) := by
  unfold openProject
  simp only [bind, Except.bind]
  cases path.expand t.homes with
  | error f => exact ⟨fun _ h => h, fun _ _ h => nomatch h⟩
  | ok expanded =>
    simp only
    cases t.resolve expanded with
    | error f => exact ⟨fun _ h => h, fun _ _ h => nomatch h⟩
    | ok root =>
      simp only
      cases Config.load t root with
      | error f => exact ⟨fun _ h => h, fun _ _ h => nomatch h⟩
      | ok config =>
        refine ⟨(fun _ h => nomatch h), fun _ _ h => ?_⟩
        cases h
        cases outputDir with
        | none => exact ⟨config.outputDir, rfl⟩
        | some dir => exact ⟨root.join dir, rfl⟩

theorem FailsEarly.congr (h : FailsEarly p c t f log) (hpath : c'.path = c.path)
    (hmodules : c'.modules = c.modules) (hentries : c'.includeEntries = c.includeEntries) :
    FailsEarly p c' t f log := by
  cases h with
  | unopened h => exact .unopened (hpath ▸ h)
  | unsearched hopen h => exact .unsearched (hpath ▸ hopen) (hmodules ▸ hentries ▸ h)

theorem generate_of_failsEarly (h : FailsEarly p c t f log) :
    generate p c t = (.ofFault .generate f, t, log) := by
  have hrun (w : Workshop) (raiseOnError : Bool) :
      w.runProject p c.request raiseOnError t = (.error f, w, t, log) := by
    obtain ⟨herror, hok⟩ := openProject_outputDir t (.ofText c.path) c.request.outputDir
    unfold Workshop.runProject Workshop.forProject
    cases h with
    | unopened h =>
      have herror : openProject t c.request.path c.request.outputDir = .error f := herror f h
      rw [herror]
      rfl
    | @unsearched config _ f hopen h =>
      obtain ⟨dir, hok⟩ := hok _ _ hopen
      have hok : openProject t c.request.path c.request.outputDir = _ := hok
      have hfind : findClasses p { config with outputDir := dir } c.request.modules
          c.request.includeEntries = .error f := h
      rw [hok]
      simp only [Workshop.discover, Workshop.ofConfig, bind, Except.bind, pure, Except.pure, hfind]
  unfold generate runProject
  simp only [hrun]
  rfl

theorem inspectProject_of_failsEarly (h : FailsEarly p c t f log) :
    inspectProject p c t = (.ofFault .inspect f, log) := by
  unfold inspectProject
  cases h with
  | unopened h => rw [h]
  | unsearched hopen h =>
    rw [hopen]
    simp only [h]

theorem carryOut_of_failsEarly {l : CommandLine} (hl : l.command = .generate ∨ l.command = .inspect)
    (h : FailsEarly p l.choices t f log) : carryOut p l t = (.ofFault l.command f, t, log) := by
  unfold carryOut
  rcases hl with hl | hl
  · rw [hl]
    exact generate_of_failsEarly h
  · rw [hl]
    simp only [inspectProject_of_failsEarly h]

end Commands

section Handled

variable {f : Fault}

theorem handled?_of_isBadValue (h : f.kind.isBadValue = true) :
    handled? .generate f = none ∧
      handled? .inspect f = some (failureLine .inspect f ++ hintLine) := by
  unfold handled?
  cases hkind : f.kind <;> simp [hkind, FaultKind.isBadValue] at h <;>
    exact ⟨rfl, rfl⟩

theorem handled?_of_not_isBadValue (h : f.kind.isBadValue = false) :
    handled? .generate f = none ↔ handled? .inspect f = none := by
  unfold handled?
  rw [h]
  simp only [Bool.and_false, Bool.or_false]
  split
  · simp
  · split <;> simp

theorem exists_append_of_handled? {c : Topic} {text : String} (h : handled? c f = some text) :
    ∃ before after, text = before ++ f.message ++ after := by
  unfold handled? failureLine at h
  split at h
  · cases h
    exact ⟨c.title ++ " failed: ", "\n", rfl⟩
  · split at h
    · cases h
      refine ⟨c.title ++ " failed: ", "\n" ++ hintLine, ?_⟩
      simp only [String.append_assoc]
      rfl
    · cases h

end Handled

section Sessions

variable {p : Program} {time : String} {args generating inspecting : List String}
  {l lg li : CommandLine} {j : Journal} {t t' : Tree} {f : Fault} {log : List LogRecord}

/-- A session whose command fails early shows the records of it and ends as the failure says. -/
theorem session_of_failsEarly (hargs : CommandLine.ofArgs args = .ok l)
    (hl : l.command = .generate ∨ l.command = .inspect)
    (hjournal : (Journal.forConsole l.verbose).keep (l.logFile.map Path.ofText) t = (.ok j, t'))
    (h : FailsEarly p l.choices t' f log) :
    session p time args t = conclude j time (.ofFault l.command f) t' log := by
  unfold session
  rw [hargs]
  simp only [hjournal, carryOut_of_failsEarly hl h]

theorem reports_of_handled? {c : Topic} {text : String} (h : handled? c f = some text) :
    (conclude j time (.ofFault c f) t log).Reports f := by
  obtain ⟨before, after, htext⟩ := exists_append_of_handled? h
  unfold conclude Ending.ofFault
  rw [h, htext]
  refine ⟨rfl, j.console log ++ before, after, ?_⟩
  change j.console log ++ (before ++ f.message ++ after) = _
  simp only [String.append_assoc]

theorem letsOut_of_handled? {c : Topic} (h : handled? c f = none) :
    (conclude j time (.ofFault c f) t log).LetsOut f := by
  unfold conclude Ending.ofFault
  rw [h]
  rfl

/-- Generating and inspecting the same project end the same way over an early failure exactly when
it is no value that cannot be read. Over such a value, inspection fails with its message and
generation lets it out. The files are left alike in any case. -/
theorem endAlike_iff (hg : CommandLine.ofArgs generating = .ok lg)
    (hi : CommandLine.ofArgs inspecting = .ok li) (halike : AskAlike lg li)
    (hjournal : (Journal.forConsole li.verbose).keep (li.logFile.map Path.ofText) t = (.ok j, t'))
    (hfails : FailsEarly p li.choices t' f log) :
    (Session.EndAlike f (session p time generating t) (session p time inspecting t) ↔
      f.kind.isBadValue = false) ∧
    (f.kind.isBadValue = true →
      (session p time generating t).LetsOut f ∧ (session p time inspecting t).Reports f) ∧
    (session p time generating t).tree = (session p time inspecting t).tree := by
  have hfails' := hfails.congr halike.path halike.modules halike.entries
  have hjournal' : (Journal.forConsole lg.verbose).keep (lg.logFile.map Path.ofText) t =
      (.ok j, t') := by rw [halike.verbose, halike.logFile, hjournal]
  rw [session_of_failsEarly hg (.inl halike.generates) hjournal' hfails',
    session_of_failsEarly hi (.inr halike.inspects) hjournal hfails, halike.generates,
    halike.inspects]
  have hbad (h : f.kind.isBadValue = true) :
      (conclude j time (.ofFault .generate f) t' log).LetsOut f ∧
        (conclude j time (.ofFault .inspect f) t' log).Reports f :=
    ⟨letsOut_of_handled? (handled?_of_isBadValue h).1,
      reports_of_handled? (handled?_of_isBadValue h).2⟩
  refine ⟨⟨fun halike => ?_, fun h => ?_⟩, hbad, rfl⟩
  · cases hvalue : f.kind.isBadValue with
    | false => rfl
    | true =>
      obtain ⟨hout, hreports⟩ := hbad hvalue
      rcases halike with ⟨h, -⟩ | ⟨-, h⟩
      · cases hout.symm.trans h.1
      · cases hreports.1.symm.trans h
  · have hsame := handled?_of_not_isBadValue h
    cases hgenerate : handled? .generate f with
    | none =>
      exact .inr ⟨letsOut_of_handled? hgenerate, letsOut_of_handled? (hsame.mp hgenerate)⟩
    | some text =>
      cases hinspect : handled? .inspect f with
      | none =>
        rw [hsame.mpr hinspect] at hgenerate
        cases hgenerate
      | some text' => exact .inl ⟨reports_of_handled? hgenerate, reports_of_handled? hinspect⟩

/-- In an empty place a project is opened, and fails over a module that cannot be found. -/
theorem failsEarly_of_findModule {name : String} (h : findModule {} name = .error f) :
    FailsEarly {} { modules := [name] } {} f
      [⟨.debug, batchLogger, "Loaded configuration for /"⟩] := by
  have hopen : openProject {} (.ofText ".") none = .ok (.defaults (.ofText "/"),
      ⟨.debug, batchLogger, "Loaded configuration for /"⟩) := rfl
  have hload : loadPresent name {} = .error f := bind_eq_error.mpr (.inl h)
  have hlead : (Lead.module name).classes loadPresent {} = .error f := bind_eq_error.mpr (.inl hload)
  have hcollect : collect loadPresent {} [.module name] = .error f := bind_eq_error.mpr (.inl hlead)
  have hdiscover : discover {} [name] true true = .error { fault := f } :=
    bind_eq_error.mpr (.inl (congrArg (Except.mapError _) hcollect))
  have hfind : findClasses {} (.defaults (.ofText "/")) [name] none = .error { fault := f } :=
    bind_eq_error.mpr (.inl hdiscover)
  exact FailsEarly.unsearched (c := { modules := [name] }) hopen hfind

/-- Over a module that is not there both commands fail with the same message. -/
theorem endAlike_missing :
    Session.EndAlike (missingModule "nope") (session {} "" ["generate", "-m", "nope"] {})
      (session {} "" ["inspect", "-m", "nope"] {}) := by
  have hg : CommandLine.ofArgs ["generate", "-m", "nope"] =
      .ok ⟨.generate, false, none, { modules := ["nope"] }⟩ := by
    rfl
  have hi : CommandLine.ofArgs ["inspect", "-m", "nope"] =
      .ok ⟨.inspect, false, none, { modules := ["nope"] }⟩ := by
    rfl
  have hfind : findModule {} "nope" = .error (missingModule "nope") := by
    rfl
  exact (endAlike_iff hg hi ⟨rfl, rfl, rfl, rfl, rfl, rfl, rfl⟩ rfl
    (failsEarly_of_findModule hfind)).1.mpr rfl

/-- Over a module without a name they end differently. -/
theorem not_all_endAlike :
    ¬∀ (p : Program) (time : String) (generating inspecting : List String) (lg li : CommandLine)
      (j : Journal) (t t' : Tree) (f : Fault) (log : List LogRecord),
      CommandLine.ofArgs generating = .ok lg → CommandLine.ofArgs inspecting = .ok li →
      AskAlike lg li →
      (Journal.forConsole li.verbose).keep (li.logFile.map Path.ofText) t = (.ok j, t') →
      FailsEarly p li.choices t' f log →
      Session.EndAlike f (session p time generating t) (session p time inspecting t) := by
  intro h
  have hg : CommandLine.ofArgs ["generate", "-m", ""] =
      .ok ⟨.generate, false, none, { modules := [""] }⟩ := by
    rfl
  have hi : CommandLine.ofArgs ["inspect", "-m", ""] =
      .ok ⟨.inspect, false, none, { modules := [""] }⟩ := by
    rfl
  have hfind : findModule {} "" = .error ⟨.badValue, "Empty module name"⟩ := rfl
  have hends := h {} "" _ _ _ _ _ {} {} _ _ hg hi ⟨rfl, rfl, rfl, rfl, rfl, rfl, rfl⟩ rfl
    (failsEarly_of_findModule hfind)
  have hcode : (session {} "" ["inspect", "-m", ""] {}).ending.result = .ok 1 := rfl
  have hfault : (session {} "" ["generate", "-m", ""] {}).ending.result =
      .error ⟨.badValue, "Empty module name"⟩ := rfl
  rcases hends with ⟨⟨hends, -⟩, -⟩ | ⟨-, hends⟩
  · cases hfault.symm.trans hends
  · cases hcode.symm.trans hends

end Sessions

end StructForge.Cli

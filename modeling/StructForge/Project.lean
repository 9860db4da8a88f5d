import StructForge.Batch.Run
import StructForge.Discovery.Found

/-! # Projects

A project is a configuration together with the marked classes that it finds. Running it runs a batch
of the classes that could be described; the others are failed outcomes ahead of it. A workshop
gathers such outcomes; every project is run in a workshop of its own. -/

namespace StructForge

open Files Schema Live Batch Discovery

structure ProjectRequest where
  path : Path
  modules : List String := []
  outputDir : Option Path := none
  includeEntries : Option Bool := none
  dryRun : Bool := false
  deriving DecidableEq

def openProject (t : Tree) (path : Path) (outputDir : Option Path) :
    Except Fault (Config × LogRecord) := do
  let root ← t.resolve (← path.expand t.homes)
  let config ← Config.load t root
  let config := match outputDir with
    | some o => { config with outputDir := root.join o }
    | none => config
  return (config, ⟨.debug, batchLogger, s!"Loaded configuration for {config.root.text}"⟩)

def joinNames (names more : List String) : List String :=
  more.foldl (fun met name => if met.contains name then met else met ++ [name]) names

def findClasses (p : Program) (c : Config) (modules : List String) (includeEntries : Option Bool) :
    Except SearchFault Found := do
  let included := includeEntries.getD c.entryPoints
  let found ← discover p (joinNames c.modules modules) included true
  let record : LogRecord :=
    ⟨.info, batchLogger,
      s!"Discovered {found.described.length} types marked for native generation"⟩
  return { found with log := found.log ++ [record] }

def failureOutcome (f : Failure) : Outcome := .undescribed f.label.name f.message

/-- A workshop: a configuration, the sink made for it, whether the standard template has been
loaded, and the classes that could not be described so far. -/
structure Workshop where
  config : Config
  sink : Sink
  standardLoaded : Bool := false
  failures : List Outcome := []

namespace Workshop

def ofConfig (c : Config) : Workshop := { config := c, sink := { outputDir := c.outputDir } }

def forProject (t : Tree) (path : Path) (outputDir : Option Path) :
    Except Fault (Workshop × LogRecord) := do
  let (config, loaded) ← openProject t path outputDir
  return (ofConfig config, loaded)

/-- Finds classes, and keeps those that could not be described. -/
def discover (w : Workshop) (p : Program) (modules : List String) (includeEntries : Option Bool) :
    Except SearchFault Found × Workshop :=
  match findClasses p w.config modules includeEntries with
  | .error f => (.error f, { w with failures := w.failures ++ f.failures.map failureOutcome })
  | .ok found =>
    (.ok found, { w with failures := w.failures ++ found.failures.map failureOutcome })

def bench (w : Workshop) (t : Tree) (log : List LogRecord) : Bench :=
  { tree := t, sink := w.sink, log, standardLoaded := w.standardLoaded }

def run (w : Workshop) (o : Options) (candidates : List Source) (t : Tree) (log : List LogRecord) :
    Except Fault Report × Workshop × Tree × List LogRecord :=
  let (result, after) := Work.run w.config o candidates (w.bench t log)
  (result, { w with sink := after.sink, standardLoaded := after.standardLoaded }, after.tree,
    after.log)

/-- Runs a project in a new workshop. The tree and the log that it leaves are there also when it
fails. -/
def runProject (w : Workshop) (p : Program) (q : ProjectRequest) (raiseOnError : Bool) (t : Tree) :
    Except Fault Conclusion × Workshop × Tree × List LogRecord :=
  match forProject t q.path q.outputDir with
  | .error f => (.error f, w, t, [])
  | .ok (project, loaded) =>
    match project.discover p q.modules q.includeEntries with
    | (.error f, _) => (.error f.fault, w, t, loaded :: f.log)
    | (.ok found, project) =>
      let (result, project, after, log) :=
        project.run ⟨q.dryRun⟩ found.described t (loaded :: found.log)
      let conclusion := result.map fun r =>
        (⟨project.failures ++ r.outcomes⟩ : Report).conclude raiseOnError
      (conclusion, w, after, log)

end Workshop

def runProject (p : Program) (q : ProjectRequest) (t : Tree) :
    Except Fault Report × Tree × List LogRecord :=
  let here := Workshop.ofConfig (.defaults (.ofLocation t.here))
  let (result, _, after, log) := here.runProject p q false t
  (result.map (·.report), after, log)

end StructForge

import StructForge.Batch.Outcome
import StructForge.Batch.Sink
import StructForge.Config
import StructForge.Struct.Override

/-! # Running a batch

The candidates of a batch are handled in order. Each is named, classified, rendered and written; a
failure of one of them is an outcome and does not stop the others. Failures of other kinds than
those of naming, emission, templates and the file system leave the run. -/

namespace StructForge.Batch

open Files Schema Struct

structure Options where
  dryRun : Bool := false
  deriving DecidableEq, Repr

/-- What becomes of a named candidate before anything is written. -/
inductive Draft where
  | unrendered (error : String)
  | empty
  | ready (text : String)
  deriving DecidableEq, Repr

def draft (templates : Templates) (t : Target) (fields : FieldSet) : Except Fault Draft :=
  match emit templates standardTemplate t fields.fields with
  | .ok none => .ok .empty
  | .ok (some text) => .ok (.ready text)
  | .error e =>
    let f := e.toFault
    if f.kind == .emission || f.kind.isTemplate then .ok (.unrendered f.message) else .error f

/-- The templates that a batch looks in. Once the standard one has been loaded it stays in use, also
when a file that would take its place is written later. -/
def Bench.templates (b : Bench) (c : Config) : Templates :=
  if b.standardLoaded then .standard else .ofDirectory? c.engine b.tree c.templatesDir

def loadsStandard (templates : Templates) (t : Target) (fields : FieldSet) : Bool :=
  match StructModel.build t fields.fields, templates [standardTemplate] with
  | .ok _, .ok none => !fields.isEmpty
  | _, _ => false

def batchLogger : String := loggerName "orchestrator"

def droppedRecord (p : DropPolicy) (s : Source) (d : Dropped) : LogRecord :=
  let level := match p with
    | .silent => Level.debug
    | .warn => .warning
  ⟨level, batchLogger,
    s!"Field {s.name}.{d.name} ({d.typeName}) left out of the mirror: {d.reason}"⟩

namespace Work

def say (level : Level) (message : String) : Work Unit := note [⟨level, batchLogger, message⟩]

def keepStandard (loaded : Bool) : Work Unit :=
  modify fun b => { b with standardLoaded := b.standardLoaded || loaded }

/-- Writes a text, after the output directory has been made unless it is known to be there. Whether
it is known from then on is returned too. -/
def save (k : Outlet) (ready : Bool) (t : Target) (text : String) :
    Work (Bool × Except Fault Path) := do
  if !ready then
    match ← guarded k.ensureDirectory with
    | .error f => return (false, .error f)
    | .ok _ => pure ()
  return (true, ← guarded (k.write t.fileName text))

def finish (k : Outlet) (o : Options) (ready : Bool) (s : Source) (t : Target)
    (dropped : List Dropped) (text : String) : Work (Bool × Outcome) := do
  if o.dryRun then
    let path := (k.directory (← get)).child t.fileName
    return (ready, .previewed s.name t dropped path text)
  match ← save k ready t text with
  | (ready, .error f) => do
    say .error s!"Failed to write {t.fileName}: {f.message}"
    return (ready, .unwritten s.name t dropped text f.message)
  | (ready, .ok path) => do
    say .info s!"Struct {t.typeName} generated and saved to {path.text}"
    return (ready, .written s.name t dropped path text)

def handle (k : Outlet) (c : Config) (o : Options) (ready : Bool) (s : Source) :
    Work (Bool × Outcome) := do
  match c.naming.target s with
  | .error f => do
    say .error s!"Cannot name mirror for {s.name}: {f.message}"
    return (ready, .unnamed s.name f.message)
  | .ok t => do
    let fields := s.extract
    note s.extractLog
    note (fields.dropped.map (droppedRecord c.dropPolicy s))
    let templates := (← get).templates c
    keepStandard (loadsStandard templates t fields)
    match draft templates t fields with
    | .error f => throw f
    | .ok (.unrendered error) => do
      say .error s!"Emission failed for {s.name}: {error}"
      return (ready, .unrendered s.name t fields.dropped error)
    | .ok .empty => do
      say .info s!"No supported fields on {s.name}; nothing generated"
      return (ready, .skipped s.name t fields.dropped)
    | .ok (.ready text) => do
      note [emitLog t fields.fields]
      finish k o ready s t fields.dropped text

/-- Handles candidates in order; `ready` says whether the output directory is known to be there. -/
def handleAll (k : Outlet) (c : Config) (o : Options) : Bool → List Source → Work (List Outcome)
  | _, [] => return []
  | ready, s :: rest => do
    let (ready, outcome) ← handle k c o ready s
    return outcome :: (← handleAll k c o ready rest)

def runTo (k : Outlet) (c : Config) (o : Options) (candidates : List Source) : Work Report := do
  let report : Report := ⟨← handleAll k c o false candidates⟩
  if !report.written.isEmpty then
    let _ ← k.refresh
  say .debug (s!"Run finished: {report.written.length} written, " ++
    s!"{report.skipped.length} skipped, {report.failed.length} failed")
  return report

def run (c : Config) (o : Options) (candidates : List Source) : Work Report :=
  runTo .files c o candidates

def generateTo (k : Outlet) (c : Config) (o : Options) (raiseOnError : Bool)
    (candidates : List Source) : Work Conclusion := do
  return (← runTo k c o candidates).conclude raiseOnError

def generate (c : Config) (o : Options) (raiseOnError : Bool) (candidates : List Source) :
    Work Conclusion :=
  generateTo .files c o raiseOnError candidates

end Work

def inspect (n : Naming) (candidates : List Source) :
    Except NamingFault (List (Target × FieldSet)) :=
  candidates.mapM fun s => do return (← n.target s, s.extract)

def inspectLog (n : Naming) (candidates : List Source) : List LogRecord :=
  (candidates.takeWhile fun s => (n.target s).isOk).flatMap Source.extractLog

end StructForge.Batch

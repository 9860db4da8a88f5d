import StructForge.Cli.CommandLine
import StructForge.Journal
import StructForge.Project

/-! # Sessions

A session reads a command line, sets up the journal, and carries out the command. It ends with an
exit code, or with a failure that no command handles. What it printed until then is kept. -/

namespace StructForge.Cli

open Files Schema Batch Discovery

structure Printed where
  output : String := ""
  complaint : String := ""
  deriving DecidableEq, Repr

namespace Printed

def append (a b : Printed) : Printed := ⟨a.output ++ b.output, a.complaint ++ b.complaint⟩

instance : Append Printed := ⟨append⟩

end Printed

/-- How a command ends: what it prints, and its exit code or a failure that is not handled. -/
structure Ending where
  printed : Printed := {}
  result : Except Fault Nat

structure Session where
  ending : Ending
  tree : Tree

def failureLine (t : Topic) (f : Fault) : String := s!"{t.title} failed: {f.message}\n"

def hintLine : String := "Run with --verbose for more details.\n"

/-- What a command prints about a failure that it handles. -/
def handled? (t : Topic) (f : Fault) : Option String :=
  if f.kind == .configuration || f.kind.isImport then some (failureLine t f)
  else if f.kind.isBadState || f.kind == .badType || (t == .inspect && f.kind.isBadValue) then
    some (failureLine t f ++ hintLine)
  else none

def Ending.ofFault (t : Topic) (f : Fault) : Ending :=
  match handled? t f with
  | some text => { printed := { complaint := text }, result := .ok 1 }
  | none => { result := .error f }

def shownPath (here : Path) (p : Path) : String := ((p.relativeTo? here).getD p).text

def outcomeText (here : Path) : Outcome → Printed
  | .previewed _ target _ _ text => { output := s!"# --- {target.fileName} ---\n{text}" }
  | .written _ _ _ path _ => { output := s!"Generated {shownPath here path}\n" }
  | .skipped source .. => { output := s!"Skipped {source} (no supported fields)\n" }
  | .undescribed source error | .unnamed source error | .unrendered source _ _ error
  | .unwritten source _ _ _ error => { complaint := s!"Failed {source}: {error}\n" }

def Printed.concat (ps : List Printed) : Printed := ps.foldl append {}

def emptyText (dryRun : Bool) : String :=
  if dryRun then "No marked types found (dry-run)\n" else "No marked types found\n"

/-- What is printed about a report: previews, written files, skipped classes, failures. -/
def reportText (here : Path) (dryRun : Bool) (r : Report) : Printed :=
  if r.outcomes.isEmpty then { output := emptyText dryRun }
  else Printed.concat
    ((r.previewed ++ r.written ++ r.skipped ++ r.failed).map (outcomeText here))

def Ending.ofReport (here : Path) (dryRun : Bool) (r : Report) : Ending :=
  let printed := reportText here dryRun r
  match r.fault? with
  | none => ⟨printed, .ok 0⟩
  | some f => ⟨printed ++ { complaint := f.message ++ "\n" }, .ok 1⟩

def Choices.request (c : Choices) : ProjectRequest :=
  { path := .ofText c.path
    modules := c.modules
    outputDir := c.outputDir.map Path.ofText
    includeEntries := c.includeEntries
    dryRun := c.dryRun }

def generate (p : Program) (c : Choices) (t : Tree) : Ending × Tree × List LogRecord :=
  let (result, after, log) := runProject p c.request t
  let ending := match result with
    | .error f => Ending.ofFault .generate f
    | .ok r => Ending.ofReport (.ofLocation t.here) c.dryRun r
  (ending, after, log)

def fieldText (d : Descriptor) : String :=
  let elements := ", ".intercalate d.elementTypes
  let ending := if elements.isEmpty then "" else s!"[{elements}]"
  s!"  {d.name}: {d.category.name}{ending}\n"

def droppedText (d : Dropped) : String := s!"  {d.name}: dropped ({d.reason})\n"

def classifiedText (t : Target) (fields : FieldSet) : String :=
  s!"{fields.source.path} -> {t.typeName} ({t.fileName})\n" ++
    "".intercalate (fields.fields.map fieldText ++ fields.dropped.map droppedText)

def Ending.ofInspection (classified : List (Target × FieldSet)) (failures : List Failure) :
    Ending :=
  let shown := if classified.isEmpty && failures.isEmpty then [emptyText false]
    else classified.map fun (t, fields) => classifiedText t fields
  let complaints := failures.map fun f => s!"Failed {f.label.name}: {f.message}\n"
  { printed := ⟨"".intercalate shown, "".intercalate complaints⟩
    result := .ok (if failures.isEmpty then 0 else 1) }

def inspectProject (p : Program) (c : Choices) (t : Tree) : Ending × List LogRecord :=
  match openProject t (.ofText c.path) none with
  | .error f => (.ofFault .inspect f, [])
  | .ok (config, loaded) =>
    match findClasses p config c.modules c.includeEntries with
    | .error f => (.ofFault .inspect f.fault, loaded :: f.log)
    | .ok found =>
      let log := loaded :: found.log ++ inspectLog config.naming found.described
      match Batch.inspect config.naming found.described with
      | .error f => (.ofFault .inspect ⟨.badValue, f.message⟩, log)
      | .ok classified => (.ofInspection classified found.failures, log)

def carryOut (p : Program) (l : CommandLine) (t : Tree) : Ending × Tree × List LogRecord :=
  match l.command with
  | .inspect =>
    let (ending, log) := inspectProject p l.choices t
    (ending, t, log)
  | _ => generate p l.choices t

/-- Shows the records of a command ahead of what it prints, and adds them to the file that the
journal keeps. -/
def conclude (j : Journal) (time : String) (ending : Ending) (t : Tree) (log : List LogRecord) :
    Session :=
  let shown : Printed := { complaint := j.console log }
  ⟨{ ending with printed := shown ++ ending.printed }, (j.write time log t).2⟩

def session (p : Program) (time : String) (args : List String) (t : Tree) : Session :=
  match CommandLine.ofArgs args with
  | .error h => ⟨⟨⟨h.output, h.complaint⟩, .ok h.code⟩, t⟩
  | .ok l =>
    let journal := (Journal.forConsole l.verbose).keep (l.logFile.map Path.ofText)
    match journal t with
    | (.error f, t) => ⟨{ result := .error f }, t⟩
    | (.ok j, t) =>
      let (ending, after, log) := carryOut p l t
      conclude j time ending after log

end StructForge.Cli

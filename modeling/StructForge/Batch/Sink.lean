import StructForge.Files.Tree
import StructForge.Log

/-! # Where generated files go

A sink writes texts into one directory and remembers what it wrote until it is asked to announce
it. Working with a sink changes a tree of files and adds to a log. -/

namespace StructForge.Batch

open Files

/-- A sink. Names in `readOnly` are refused. -/
structure Sink where
  outputDir : Path
  readOnly : List String := []
  pending : List Path := []
  deriving Repr

/-- What work with a sink changes: the tree, the sink, the log, the announcements made, and whether
the standard template has been loaded. -/
structure Bench where
  tree : Tree
  sink : Sink
  log : List LogRecord := []
  announced : List (List Path) := []
  standardLoaded : Bool := false

/-- Work at a bench. Failed work keeps what it did before it failed. -/
abbrev Work := ExceptT Fault (StateM Bench)

namespace Work

def note (records : List LogRecord) : Work Unit :=
  modify fun b => { b with log := b.log ++ records }

def act {α : Type} (a : Action α) : Work α := do
  let b ← get
  let (result, tree) := a b.tree
  set { b with tree }
  match result with
  | .ok r => return r
  | .error f => throw f

def guarded {α : Type} (w : Work α) : Work (Except Fault α) :=
  tryCatch (do return .ok (← w)) fun f => if f.kind.isOs then return .error f else throw f

def ensureDirectory : Work Path := do
  let dir := (← get).sink.outputDir
  act (Action.makeDirectories dir)
  return dir

def write (name text : String) : Work Path := do
  let s := (← get).sink
  let path := s.outputDir.child name
  if s.readOnly.contains name then throw ⟨.os .permission, s!"read-only: {name}"⟩
  act (Action.writeText path text)
  modify fun b => { b with sink := { b.sink with pending := b.sink.pending ++ [path] } }
  note [⟨.debug, loggerName "writer", s!"Wrote {path.text} ({text.utf8ByteSize} bytes)"⟩]
  return path

/-- Announces what was written since the last announcement. -/
def refresh : Work (List Path) := do
  let paths := (← get).sink.pending
  modify fun b =>
    { b with sink := { b.sink with pending := [] }, announced := b.announced ++ [paths] }
  return paths

end Work

/-- What a batch asks of a sink: its directory, to make it, to write a text under a name, and to
announce what was written. -/
structure Outlet where
  directory : Bench → Path
  ensureDirectory : Work Path
  write (name text : String) : Work Path
  refresh : Work (List Path)

def Outlet.files : Outlet :=
  ⟨(·.sink.outputDir), Work.ensureDirectory, Work.write, Work.refresh⟩

end StructForge.Batch

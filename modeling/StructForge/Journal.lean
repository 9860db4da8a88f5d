import StructForge.Files.Tree
import StructForge.Log

/-! # Journals

A journal shows records from a level on: on the console, and at the end of a file if it keeps one.
A journal that has not been set up shows warnings and errors on the console, without a heading. -/

namespace StructForge

open Files

/-- Where records are shown. -/
structure Journal where
  level : Level := .debug
  isSetUp : Bool := false
  file : Option Path := none
  deriving DecidableEq, Repr

namespace Journal

def forConsole (verbose : Bool) : Journal :=
  { level := if verbose then .debug else .info, isSetUp := true }

/-- A path seen from the root, without the names that lead back. -/
def settled (t : Tree) (p : Path) : Path :=
  ⟨if p.anchor = .here then .root else p.anchor, p.locate t.here⟩

def keep (j : Journal) (file : Option Path) : Action Journal := do
  match file with
  | none => return j
  | some p => do
    let p := settled (← get) p
    Action.appendText p ""
    return { j with file := some p }

def shows (j : Journal) (r : LogRecord) : Bool :=
  let least := if j.isSetUp then j.level else .warning
  decide (least.rank ≤ r.level.rank)

def consoleLine (j : Journal) (r : LogRecord) : String :=
  if j.isSetUp then s!"[nativegen] {r.level.name} {r.message}\n" else r.message ++ "\n"

def fileLine (time : String) (r : LogRecord) : String :=
  s!"{time} {r.level.name} {r.logger}: {r.message}\n"

def console (j : Journal) (records : List LogRecord) : String :=
  "".intercalate ((records.filter j.shows).map j.consoleLine)

def write (j : Journal) (time : String) (records : List LogRecord) : Action Unit :=
  match j.file with
  | none => return
  | some p => Action.appendText p ("".intercalate ((records.filter j.shows).map (fileLine time)))

end Journal

end StructForge

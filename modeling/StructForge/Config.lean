import StructForge.Files.Tree
import StructForge.Number.Whole
import StructForge.Schema.Target
import StructForge.Struct.Emit
import StructForge.Text.Blank
import StructForge.Yaml.Data

/-! # Configuration

A project is configured by a file in its root directory. An entry of another type than expected is
ignored; a prefix that is no identifier, an unknown drop policy, and a document that holds anything
but a mapping are refused. A number in the place of a text is written out, which fails over a whole
number of too many digits. -/

namespace StructForge

open Files Schema Yaml

/-- How loudly dropped fields are reported. -/
inductive DropPolicy where
  | warn
  | silent
  deriving DecidableEq, Repr

namespace DropPolicy

def all : List DropPolicy := [.warn, .silent]

def name : DropPolicy → String
  | .warn => "warn"
  | .silent => "silent"

def ofName? (s : String) : Option DropPolicy := all.find? (·.name == s)

end DropPolicy

/-- The configuration of a project, with what its templates are filled in with. -/
structure Config where
  root : Path
  outputDir : Path
  naming : Naming := {}
  modules : List String := []
  entryPoints : Bool := true
  dropPolicy : DropPolicy := .warn
  templatesDir : Option Path := none
  engine : Struct.Engine := .standard

/-- Why a configuration is refused. -/
inductive ConfigFault where
  | notMapping
  | badPrefix (text : String)
  | badDropPolicy (text : String)
  | malformed (reason : String)
  deriving DecidableEq, Repr

def configFileName : String := ".nativegen.yml"

def ConfigFault.message : ConfigFault → String
  | .notMapping => s!"{configFileName} must contain a mapping at the root"
  | .badPrefix text => s!"naming.type_prefix must be a valid identifier, got {Text.quoted text}"
  | .badDropPolicy text =>
    let allowed := ", ".intercalate (DropPolicy.all.map (·.name))
    s!"drop_policy must be one of {allowed}, got {Text.quoted text}"
  | .malformed reason => s!"Failed to parse {configFileName}: {reason}"

def ConfigFault.toFault (f : ConfigFault) : Fault := ⟨.configuration, f.message⟩

/-- Where generated files go unless the configuration says otherwise. -/
def defaultOutput : String := "generated/native_data"

def Config.defaults (root : Path) : Config := { root, outputDir := root.child defaultOutput }

namespace Yaml.Data

/-- The text of a datum that is a text, number or truth value. -/
def asText? : Data → Except Fault (Option String)
  | .text s => .ok (some s)
  | .int i => (Number.wholeText i).map some
  | .float x => .ok (some (x.text .double))
  | .bool b => .ok (some (if b then "True" else "False"))
  | _ => .ok none

/-- The truth value that a datum stands for. -/
def asFlag? : Data → Option Bool
  | .bool b => some b
  | .text s =>
    let word := Text.lower (Text.trim s)
    if ["true", "yes", "1"].contains word then some true
    else if ["false", "no", "0"].contains word then some false
    else none
  | _ => none

/-- The texts in a datum: itself, or its items. Octets count as numbers. -/
def asTexts : Data → Except Fault (List String)
  | .text s => .ok [s]
  | .list items => do return (← items.mapM asText?).reduceOption
  | .octets bs => .ok (bs.map fun b => toString b.toNat)
  | _ => .ok []

def isMap : Data → Bool
  | .map _ => true
  | _ => false

def textAt? (d : Data) (key : String) : Except Fault (Option String) :=
  ((d.find? key).getD .null).asText?

end Yaml.Data

namespace Config

def namingOf (d : Data) : Except Fault Naming := do
  let part := (d.find? "naming").getD .null
  let standard : Naming := {}
  return {
    typePrefix := (← part.textAt? "type_prefix").getD standard.typePrefix
    fileSuffix := (← part.textAt? "file_suffix").getD standard.fileSuffix }

def filled? (s : Option String) : Option String := s.filter (!·.isEmpty)

def ofData (root : Path) (d : Data) : Except Fault Config := do
  if !d.isMap then throw ConfigFault.notMapping.toFault
  let outputDir ← d.textAt? "output_dir"
  let naming ← namingOf d
  if !naming.typePrefix.isEmpty && !Text.isIdentifier naming.typePrefix then
    throw (ConfigFault.badPrefix naming.typePrefix).toFault
  let discovery := (d.find? "discovery").getD .null
  let modules ← ((discovery.find? "modules").getD .null).asTexts
  let policyName := Text.lower ((filled? (← d.textAt? "drop_policy")).getD DropPolicy.warn.name)
  match DropPolicy.ofName? policyName with
  | none => throw (ConfigFault.badDropPolicy policyName).toFault
  | some dropPolicy =>
    return {
      root
      outputDir := root.child ((filled? outputDir).getD defaultOutput)
      naming
      modules
      entryPoints := ((discovery.find? "entry_points").bind Data.asFlag?).getD true
      dropPolicy
      templatesDir := (filled? (← d.textAt? "templates_dir")).map root.child }

/-- The configuration that a text stands for. A text that says nothing stands for an empty mapping,
as does a document whose value counts as absent. -/
def ofText (root : Path) (s : String) (reader : DocumentReader := Data.ofText) :
    Except Fault Config :=
  if (Text.trim s).isEmpty then ofData root (.map [])
  else match reader s with
    | .error (.malformed reason) => .error (ConfigFault.malformed reason).toFault
    | .error (.value flaw message) => .error ⟨flaw.kind, message⟩
    | .ok d => ofData root (if d.isBlank then .map [] else d)

/-- The path of the configuration file for a path: inside a directory, or else beside a file. -/
def fileFor (t : Tree) (p : Path) : Except Fault Path := do
  let p ← p.expand t.homes
  if ← t.isDirectory p then t.resolve (p.child configFileName)
  else if p.name != configFileName then t.resolve (p.parent.child configFileName)
  else t.resolve p

def load (t : Tree) (p : Path) (reader : DocumentReader := Data.ofText) : Except Fault Config := do
  let file ← fileFor t p
  let root ← t.resolve file.parent
  if ← t.has file then ofText root (← t.readText file) reader
  else return defaults root

end Config

end StructForge

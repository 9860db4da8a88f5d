import StructForge.Json.Reader
import StructForge.Project

/-! # Requests to generate

The body of a request is an object. Every member that is missing or of a wrong type is a fault of
its own; unknown members are ignored. A flag may be a truth value, a number that is zero or one, or
one of a few words. -/

namespace StructForge.Service

open Files

/-- What is wrong with a part of a body. -/
inductive Defect where
  | malformed
  | missing
  | notObject
  | notText
  | brokenText
  | notList
  | notFlag
  | unreadableFlag
  deriving DecidableEq, Repr

def Defect.name : Defect → String
  | .malformed => "json_invalid"
  | .missing => "missing"
  | .notObject => "model_attributes_type"
  | .notText => "string_type"
  | .brokenText => "string_unicode"
  | .notList => "list_type"
  | .notFlag => "bool_type"
  | .unreadableFlag => "bool_parsing"

/-- A step to a part of a body: the name of a member, or an index or offset. -/
inductive Step where
  | member (name : String)
  | index (i : Nat)
  deriving DecidableEq, Repr

/-- A fault of a body: what is wrong, and where. -/
structure Invalid where
  defect : Defect
  place : List Step
  deriving DecidableEq, Repr

/-- What is read from a part of a body, or its faults. -/
abbrev Checked := Except (List Invalid)

def faults {α : Type} : Checked α → List Invalid
  | .ok _ => []
  | .error fs => fs

def checkText (place : List Step) : Json → Checked String
  | .text s => .ok s
  | .brokenText => .error [⟨.brokenText, place⟩]
  | _ => .error [⟨.notText, place⟩]

def checkItems (place : List Step) : Nat → List Json → Checked (List String)
  | _, [] => .ok []
  | i, v :: rest =>
    match checkText (place ++ [.index i]) v, checkItems place (i + 1) rest with
    | .ok s, .ok texts => .ok (s :: texts)
    | first, others => .error (faults first ++ faults others)

def checkTexts (place : List Step) : Json → Checked (List String)
  | .list items => checkItems place 0 items
  | _ => .error [⟨.notList, place⟩]

def flagWords : List (String × Bool) :=
  [("1", true), ("t", true), ("y", true), ("yes", true), ("on", true), ("true", true),
    ("0", false), ("f", false), ("n", false), ("no", false), ("off", false), ("false", false)]

def flagOfInt (place : List Step) (i : Int) : Checked Bool :=
  if i = 0 then .ok false
  else if i = 1 then .ok true
  else if -Number.twoTo 63 ≤ i && i < Number.twoTo 63 then .error [⟨.unreadableFlag, place⟩]
  else .error [⟨.notFlag, place⟩]

def checkFlag (place : List Step) : Json → Checked Bool
  | .bool b => .ok b
  | .int i => flagOfInt place i
  | .float x =>
    match x.toInt? with
    | some i => flagOfInt place i
    | none => .error [⟨.notFlag, place⟩]
  | .text s =>
    match flagWords.lookup (String.ofList (s.toList.map Char.toLower)) with
    | some b => .ok b
    | none => .error [⟨.unreadableFlag, place⟩]
  | .brokenText => .error [⟨.unreadableFlag, place⟩]
  | .null | .list _ | .object _ => .error [⟨.notFlag, place⟩]

def checkOptional {α : Type} (check : List Step → Json → Checked α) (place : List Step) :
    Json → Checked (Option α)
  | .null => .ok none
  | v => (check place v).map some

def bodyPlace : List Step := [.member "body"]

def checkMember {α : Type} (members : List (Option String × Json)) (name : String)
    (check : List Step → Json → Checked α) (fallback : Option α) : Checked α :=
  let place := bodyPlace ++ [.member name]
  match Json.last? members name, fallback with
  | some v, _ => check place v
  | none, some a => .ok a
  | none, none => .error [⟨.missing, place⟩]

def checkMembers (members : List (Option String × Json)) : Checked ProjectRequest :=
  let path := checkMember members "path" checkText none
  let modules := checkMember members "modules" checkTexts (some [])
  let outputDir := checkMember members "output_dir" (checkOptional checkText) (some none)
  let entries := checkMember members "include_entry_points" (checkOptional checkFlag) (some none)
  let dryRun := checkMember members "dry_run" checkFlag (some false)
  match path, modules, outputDir, entries, dryRun with
  | .ok path, .ok modules, .ok outputDir, .ok includeEntries, .ok dryRun =>
    .ok {
      path := .ofText path
      modules
      outputDir := outputDir.map Path.ofText
      includeEntries
      dryRun }
  | _, _, _, _, _ =>
    .error (faults path ++ faults modules ++ faults outputDir ++ faults entries ++ faults dryRun)

def checkBody (body : String) : Checked ProjectRequest :=
  if body.isEmpty then .error [⟨.missing, bodyPlace⟩]
  else match Json.ofText body with
    | .error offset => .error [⟨.malformed, bodyPlace ++ [.index offset]⟩]
    | .ok .null => .error [⟨.missing, bodyPlace⟩]
    | .ok (.object members) => checkMembers members
    | .ok _ => .error [⟨.notObject, bodyPlace⟩]

end StructForge.Service

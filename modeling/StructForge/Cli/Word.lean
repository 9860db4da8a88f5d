import StructForge.Cli.Flag
import StructForge.Text.Digit
import StructForge.Text.Quoted

/-! # Words of a command line

Each word is plain, or the two dashes after which every word is plain, or is written like a flag. A
flag may be shortened as long as one flag alone is meant, and may have a value attached to it. -/

namespace StructForge.Cli

/-- A value attached to a flag. A `marked` value follows an equals sign. -/
structure Attached where
  marked : Bool
  text : List Char
  deriving DecidableEq, Repr

structure Written where
  flag : Flag
  name : String
  attached : Option Attached
  deriving DecidableEq, Repr

/-- A word. One that is written like a flag has a reading if the flag is known. -/
inductive Word where
  | plain (text : String)
  | stop
  | flag (text : String) (reading : Option Written)
  deriving DecidableEq, Repr

def stopText : String := "--"

def Word.text : Word → String
  | .plain text | .flag text _ => text
  | .stop => stopText

/-- What is wrong with a command line. -/
inductive Misuse where
  | ambiguous (text : String) (names : List String)
  | missingValue (flag : Flag)
  | unusedValue (flag : Flag) (text : String)
  | unknownCommand (text : String) (known : List String)
  | noCommand
  | unrecognized (texts : List String)
  deriving DecidableEq, Repr

def Misuse.message : Misuse → String
  | .ambiguous text names =>
    let names := ", ".intercalate names
    s!"ambiguous option: {text} could match {names}"
  | .missingValue flag => s!"argument {flag.title}: expected one argument"
  | .unusedValue flag text =>
    s!"argument {flag.title}: ignored explicit argument {Text.quoted text}"
  | .unknownCommand text known =>
    let known := ", ".intercalate (known.map Text.quoted)
    s!"argument command: invalid choice: {Text.quoted text} (choose from {known})"
  | .noCommand => "the following arguments are required: command"
  | .unrecognized texts =>
    let texts := " ".intercalate texts
    s!"unrecognized arguments: {texts}"

def flagNames (flags : List Flag) : List (String × Flag) :=
  flags.flatMap fun f => f.names.map fun name => (name, f)

def flag? (flags : List Flag) (name : String) : Option Flag := (flagNames flags).lookup name

/-- What stands before the first equals sign, and what follows it. -/
def cutAtEquals (cs : List Char) : List Char × Option (List Char) :=
  match cs.span (· != '=') with
  | (before, _ :: after) => (before, some after)
  | (before, []) => (before, none)

/-- A full name with an equals sign and a value. -/
def fullReading? (flags : List Flag) (cs : List Char) : Option Written :=
  match cutAtEquals cs with
  | (before, some after) =>
    let name := String.ofList before
    (flag? flags name).map fun f => ⟨f, name, some ⟨true, after⟩⟩
  | _ => none

def shortReadings (flags : List Flag) (cs : List Char) : List Written :=
  match cs with
  | '-' :: '-' :: _ =>
    let (before, after) := cutAtEquals cs
    (flagNames flags).filterMap fun (name, f) =>
      if before.isPrefixOf name.toList then some ⟨f, name, after.map (⟨true, ·⟩)⟩ else none
  | '-' :: c :: rest =>
    (flagNames flags).filterMap fun (name, f) =>
      if name.toList = ['-', c] then some ⟨f, name, some ⟨false, rest⟩⟩
      else if cs.isPrefixOf name.toList then some ⟨f, name, none⟩
      else none
  | _ => []

/-- Whether characters are digits, at least one, before the end or a last line break. -/
def areDigits (cs : List Char) : Bool :=
  let digits := if cs.getLast? = some '\n' then cs.dropLast else cs
  !digits.isEmpty && digits.all fun c => (Text.digitValue? c).isSome

def isNegativeNumber (cs : List Char) : Bool :=
  match cs with
  | '-' :: number =>
    areDigits number ||
      match number.dropWhile fun c => (Text.digitValue? c).isSome with
      | '.' :: rest => areDigits rest
      | _ => false
  | _ => false

def Word.ofText (flags : List Flag) (s : String) : Except Misuse Word :=
  let cs := s.toList
  match cs with
  | '-' :: _ :: _ =>
    match flag? flags s with
    | some f => .ok (.flag s (some ⟨f, s, none⟩))
    | none =>
      match fullReading? flags cs with
      | some w => .ok (.flag s (some w))
      | none =>
        match shortReadings flags cs with
        | [w] => .ok (.flag s (some w))
        | [] => .ok (if isNegativeNumber cs || cs.contains ' ' then .plain s else .flag s none)
        | ws => .error (.ambiguous s (ws.map (·.name)))
  | _ => .ok (.plain s)

def readWords (flags : List Flag) : List String → Except Misuse (List Word)
  | [] => .ok []
  | s :: rest =>
    if s = stopText then .ok (.stop :: rest.map .plain)
    else do return (← Word.ofText flags s) :: (← readWords flags rest)

end StructForge.Cli

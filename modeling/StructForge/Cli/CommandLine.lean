import StructForge.Cli.Event
import StructForge.Cli.Usage

/-! # Command lines

A command line opens with the flags of the program, then names a command, and leaves every word
after it to that command. Words that nothing asks for are refused once both have been read. -/

namespace StructForge.Cli

/-- What there is usage and help of: the program, or one of its commands. -/
inductive Topic where
  | program
  | generate
  | inspect
  deriving DecidableEq, Repr

namespace Topic

def commands : List Topic := [.generate, .inspect]

def name : Topic → String
  | .program => ""
  | .generate => "generate"
  | .inspect => "inspect"

def title : Topic → String
  | .program => programName
  | t => s!"{programName} {t.name}"

def usage : Topic → String
  | .program => mainUsage
  | .generate => generateUsage
  | .inspect => inspectUsage

def help : Topic → String
  | .program => mainHelp
  | .generate => generateHelp
  | .inspect => inspectHelp

def flags : Topic → List Flag
  | .program => [.help, .verbose, .logFile]
  | .generate => [.help, .verbose, .module, .ignoreEntries, .outputDir, .dryRun]
  | .inspect => [.help, .verbose, .module, .ignoreEntries]

def place : Topic → Place
  | .program => .command
  | .generate | .inspect => .path

def read (t : Topic) (args : List String) : List Event :=
  match readWords t.flags args with
  | .ok words => events t.flags (some t.place) words
  | .error m => [.misuse m]

def command? (name : String) : Option Topic := commands.find? (·.name == name)

end Topic

/-- How a command line ends that leads to no command. -/
inductive Halt where
  | help (t : Topic)
  | misuse (t : Topic) (m : Misuse)
  deriving DecidableEq, Repr

namespace Halt

def code : Halt → Nat
  | .help _ => 0
  | .misuse .. => 2

def output : Halt → String
  | .help t => t.help
  | .misuse .. => ""

def complaint : Halt → String
  | .help _ => ""
  | .misuse t m => s!"{t.usage}{t.title}: error: {m.message}\n"

end Halt

structure Choices where
  verbose : Bool := false
  path : String := "."
  modules : List String := []
  includeEntries : Option Bool := none
  outputDir : Option String := none
  dryRun : Bool := false
  extras : List String := []
  deriving DecidableEq, Repr

def Choices.take (t : Topic) (c : Choices) : Event → Except Halt Choices
  | .flag .help _ => .error (.help t)
  | .flag .verbose _ => .ok { c with verbose := true }
  | .flag .module name => .ok { c with modules := c.modules ++ name.toList }
  | .flag .ignoreEntries _ => .ok { c with includeEntries := some false }
  | .flag .outputDir path => .ok { c with outputDir := path }
  | .flag .dryRun _ => .ok { c with dryRun := true }
  | .flag .logFile _ | .command .. | .path none => .ok c
  | .path (some text) => .ok { c with path := text }
  | .extra text => .ok { c with extras := c.extras ++ [text] }
  | .misuse m => .error (.misuse t m)

def Choices.ofArgs (t : Topic) (args : List String) : Except Halt Choices :=
  (t.read args).foldlM (Choices.take t) {}

/-- What has been said to the program. -/
structure Opening where
  verbose : Bool := false
  logFile : Option String := none
  command : Option (Topic × Choices) := none
  extras : List String := []
  deriving DecidableEq, Repr

def Opening.take (o : Opening) : Event → Except Halt Opening
  | .flag .help _ => .error (.help .program)
  | .flag .verbose _ => .ok { o with verbose := true }
  | .flag .logFile path => .ok { o with logFile := path }
  | .command name args =>
    match Topic.command? name with
    | none => .error (.misuse .program (.unknownCommand name (Topic.commands.map (·.name))))
    | some t => do return { o with command := some (t, ← Choices.ofArgs t args) }
  | .extra text => .ok { o with extras := o.extras ++ [text] }
  | .misuse m => .error (.misuse .program m)
  | .flag .. | .path _ => .ok o

structure CommandLine where
  command : Topic
  verbose : Bool
  logFile : Option String
  choices : Choices
  deriving DecidableEq, Repr

def Opening.close (o : Opening) : Except Halt CommandLine :=
  match o.command with
  | none => .error (.misuse .program .noCommand)
  | some (t, c) =>
    let extras := o.extras ++ c.extras
    if extras.isEmpty then .ok ⟨t, o.verbose || c.verbose, o.logFile, c⟩
    else .error (.misuse .program (.unrecognized extras))

def CommandLine.ofArgs (args : List String) : Except Halt CommandLine := do
  let opening ← (Topic.program.read args).foldlM Opening.take {}
  opening.close

end StructForge.Cli

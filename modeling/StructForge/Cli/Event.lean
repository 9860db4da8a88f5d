import StructForge.Cli.Word

/-! # What a command line says

The words of a command line say one thing after the other: a flag with or without a value, a word
for the one free place, or a word that nothing asks for. The first misuse is the last thing that is
said. -/

namespace StructForge.Cli

/-- The free place of a command line: for a command, which takes every word after it too, or for a
path, which may be left out. -/
inductive Place where
  | command
  | path
  deriving DecidableEq, Repr

inductive Event where
  | flag (f : Flag) (value : Option String)
  | command (name : String) (args : List String)
  | path (text : Option String)
  | extra (text : String)
  | misuse (m : Misuse)
  deriving DecidableEq, Repr

/-- What a flag with a value attached to it says, and the flag that still waits for the next words.
A `short` flag without a value of its own may be followed by more of them. -/
def attachedEvents (flags : List Flag) (f : Flag) (short marked : Bool) (text : List Char) :
    Except Misuse (List Event × Option Flag) :=
  if f.takesValue then .ok ([.flag f (some (String.ofList text))], none)
  else
    let refused := Misuse.unusedValue f (String.ofList text)
    if !short || marked then .error refused
    else match text with
      | [] => .error refused
      | c :: rest =>
        if c == '-' then .error refused
        else match flag? flags (String.ofList ['-', c]) with
          | none => .ok ([.extra (String.ofList ('-' :: c :: rest)), .flag f none], none)
          | some next =>
            match rest with
            | [] => .ok ([.flag f none], some next)
            | '=' :: value => do
              let (events, waiting) ← attachedEvents flags next true true value
              return (.flag f none :: events, waiting)
            | d :: more => do
              let (events, waiting) ← attachedEvents flags next true false (d :: more)
              return (.flag f none :: events, waiting)
termination_by text.length

/-- What a written flag says by itself, and the flag that still waits for the next words. -/
def Written.events (flags : List Flag) (w : Written) : Except Misuse (List Event × Option Flag) :=
  match w.attached with
  | none => .ok ([], some w.flag)
  | some a =>
    attachedEvents flags w.flag (!stopText.toList.isPrefixOf w.name.toList) a.marked a.text

/-- What words say; `place` is the free place as long as it is free. -/
def events (flags : List Flag) : Option Place → List Word → List Event
  | some .path, [] => [.path none]
  | _, [] => []
  | place, .flag text none :: rest => .extra text :: events flags place rest
  | place, .flag _ (some w) :: rest =>
    match w.events flags with
    | .error m => [.misuse m]
    | .ok (said, none) => said ++ events flags place rest
    | .ok (said, some f) =>
      if f.takesValue then
        match rest with
        | .plain value :: rest => said ++ .flag f (some value) :: events flags place rest
        | _ => [.misuse (.missingValue f)]
      else said ++ .flag f none :: events flags place rest
  | some .command, .plain name :: rest => [.command name (rest.map (·.text))]
  | some .command, .stop :: .plain name :: rest =>
    [.command stopText (name :: rest.map (·.text))]
  | some .path, .plain text :: .stop :: rest => .path (some text) :: events flags none rest
  | some .path, .plain text :: rest => .path (some text) :: events flags none rest
  | some .path, .stop :: .plain text :: rest => .path (some text) :: events flags none rest
  | some .path, .stop :: rest => .path none :: events flags none rest
  | place, word :: rest => .extra word.text :: events flags place rest

end StructForge.Cli

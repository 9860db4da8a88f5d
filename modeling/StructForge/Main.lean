import StructForge.Cli.Session
import StructForge.Files.Difference

/-! # The program

The program looks at the places of the file system that its command line and its configuration name,
carries out the command on a tree of what it saw, and writes the differences back. It defines no
classes of its own, so that it finds the modules that are always there and no others. -/

namespace StructForge.Main

open Files Cli

def onDisk (text : String) := do
  let here ← IO.currentDir
  return here / text

/-- Adds the directory or file at a location to a tree, if there is one. -/
def look (t : Tree) (place : Location) : IO Tree := do
  let p ← onDisk (Path.ofLocation place).text
  if ← p.isDir then return t.put place .directory
  else if ← p.pathExists then return t.put place (.file (← IO.FS.readBinFile p))
  else return t

def lookAlong (t : Tree) (place : Location) : IO Tree :=
  (List.range place.length).foldlM (fun t n => look t (place.take (n + 1))) t

def lookInto (t : Tree) (place : Location) : Nat → IO Tree
  | 0 => lookAlong t place
  | depth + 1 => do
    let t ← lookAlong t place
    match t.find? place with
    | some .directory => do
      let children ← (← onDisk (Path.ofLocation place).text).readDir
      children.foldlM (fun t child => lookInto t (place ++ [child.fileName]) depth) t
    | _ => return t

def templateDepth : Nat := 3

/-- Adds the places that a configuration names. -/
def lookAround (t : Tree) (c : Config) : IO Tree := do
  let t ← lookInto t (c.outputDir.locate t.here) 1
  match c.templatesDir with
  | some p => lookInto t (p.locate t.here) templateDepth
  | none => return t

def survey (l : CommandLine) : IO Tree := do
  let here := (Path.ofText (← IO.currentDir).toString).names
  let homes := match ← IO.getEnv "HOME" with
    | some home => [("", Path.ofText home)]
    | none => []
  let t ← lookAlong { here, homes } here
  let named := Path.ofText l.choices.path
  let place := ((named.expand homes).toOption.getD named).locate here
  let t ← lookAlong t (place ++ [configFileName])
  let t ← lookAlong t (place.dropLast ++ [configFileName])
  let t ← match l.logFile with
    | some file => lookAlong t ((Path.ofText file).locate here)
    | none => pure t
  match openProject t named (l.choices.outputDir.map Path.ofText) with
  | .ok (config, _) => lookAround t config
  | .error _ => return t

def store (before after : Tree) : IO Unit := do
  for path in before.newDirectories after [] do
    IO.FS.createDirAll (← onDisk ("/" ++ path))
  for (path, content) in before.changedFiles after [] do
    IO.FS.writeBinFile (← onDisk ("/" ++ path)) content

/-- The program, for the words of its command line. -/
def run (args : List String) : IO UInt32 := do
  let before ← match CommandLine.ofArgs args with
    | .ok l => survey l
    | .error _ => pure {}
  let s := session {} s!"{← IO.monoMsNow}ms" args before
  store before s.tree
  IO.print s.ending.printed.output
  IO.eprint s.ending.printed.complaint
  match s.ending.result with
  | .ok code => return code.toUInt32
  | .error f => do
    IO.eprintln s!"{programName}: {f.message}"
    return 1

end StructForge.Main

def main (args : List String) : IO UInt32 := StructForge.Main.run args

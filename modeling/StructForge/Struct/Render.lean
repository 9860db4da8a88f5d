import StructForge.Struct.Model

/-! # Text of generated modules

The lines of a module in order: a header, its imports, and the struct with its slots, constructor,
default, release and context methods. -/

namespace StructForge.Struct

def indented (level : Nat) (line : String) : String :=
  String.ofList (List.replicate (4 * level) ' ') ++ line

def Slot.conversion (s : Slot) : List String :=
  let place := "self." ++ s.name
  let source := "instance." ++ s.name
  match s.content with
  | .array element copy =>
    [indented 2 s!"{place} = NativeArray({element}, len({source}), {allocatorText})",
      indented 2 s!"for i in range(len({source})):",
      indented 3 (place ++ "[i] = " ++ copy.text (source ++ "[i]"))]
  | .map key value keyCopy valueCopy =>
    let item := valueCopy.text "value"
    [indented 2 s!"{place} = NativeHashMap({key}, {value}, len({source}), {allocatorText})",
      indented 2 s!"for key, value in {source}.items():",
      indented 3 s!"{place}.add({keyCopy.text}, {item})"]
  | .vector3 => [indented 2 (place ++ " = " ++ Copy.vector3.text source)]
  | .vector2 => [indented 2 (place ++ " = " ++ Copy.vector2.text source)]
  | .scalar .. => [indented 2 (place ++ " = " ++ source)]

def importText (module : String) (names : List String) : String :=
  let joined := ", ".intercalate names
  s!"from {module} import {joined}"

namespace StructModel

def importLines (m : StructModel) : List String :=
  (if m.needsNumpy then ["import numpy as np", ""] else []) ++
    (if m.runtimeImports.isEmpty then []
      else [importText runtimeModule (m.runtimeImports.map (·.text))]) ++
    m.imports.map fun line => importText line.module (line.names.map (·.text))

/-- The lines that fill the slots, a blank line between two slots. -/
def conversionLines (m : StructModel) : List String :=
  (m.slots.map (·.conversion)).intersperse [""] |>.flatten

def defaultLines (m : StructModel) : List String :=
  m.slots.map fun s => indented 2 s!"mirror.{s.name} = {s.content.default}"

def releaseLines (m : StructModel) : List String :=
  m.releases.flatMap fun name =>
    [indented 2 s!"if self.{name}.is_created:", indented 3 s!"self.{name}.dispose()"]

def lines (m : StructModel) : List String :=
  [s!"# Generated by nativegen from {m.sourcePath}. Do not edit.",
    "# Regenerate with `nativegen generate`; manual changes are overwritten.",
    "",
    "from __future__ import annotations",
    ""] ++
  m.importLines ++
  ["",
    "",
    s!"class {m.typeName}:",
    indented 1 s!"\"\"\"Native mirror of ``{m.sourcePath}``.\"\"\"",
    "",
    indented 1 s!"__slots__ = {m.slotsText}",
    ""] ++
  (m.slots.map fun s => indented 1 s!"{s.name}: {s.content.declaration}") ++
  ["",
    indented 1 s!"def __init__(self, instance: {m.sourceExpr}) -> None:"] ++
  m.conversionLines ++
  ["",
    indented 1 "@classmethod",
    indented 1 s!"def default(cls) -> {m.typeName}:",
    indented 2 "\"\"\"Return a zeroed mirror that owns no allocated containers.\"\"\"",
    indented 2 "mirror = cls.__new__(cls)"] ++
  m.defaultLines ++
  [indented 2 "return mirror",
    "",
    indented 1 "def dispose(self) -> None:",
    indented 2 "\"\"\"Release every allocated container; safe to call repeatedly.\"\"\""] ++
  m.releaseLines ++
  ["",
    indented 1 s!"def __enter__(self) -> {m.typeName}:",
    indented 2 "return self",
    "",
    indented 1 "def __exit__(self, *exc_info: object) -> None:",
    indented 2 "self.dispose()"]

def text (m : StructModel) : String := "\n".intercalate m.lines ++ "\n"

end StructModel

end StructForge.Struct

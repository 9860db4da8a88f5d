import StructForge.Live.Registry
import StructForge.Text.Quoted
import StructForge.Text.Split

/-! # Finding modules by name

A dotted name is found package by package; the first part that is not there decides the failure. A
module that is not loaded yet is run then, which may define anything, or fail. -/

namespace StructForge.Discovery

open Live

/-- Modules that are always there, with whether others can be inside them. -/
def standardModules : List (String × Bool) :=
  [("builtins", false), ("sys", false), ("os", false), ("os.path", false), ("re", false),
    ("math", false), ("enum", false), ("typing", false), ("types", false), ("dataclasses", false),
    ("abc", false), ("ast", false), ("argparse", false), ("pathlib", false), ("asyncio", true),
    ("collections", true), ("collections.abc", false), ("functools", false), ("itertools", false),
    ("json", true), ("importlib", true), ("importlib.metadata", true), ("logging", true),
    ("string", false), ("random", false), ("datetime", false), ("decimal", false),
    ("numpy", true), ("yaml", true), ("jinja2", true), ("fastapi", true), ("pydantic", true),
    ("nativegen", true), ("nativegen.classifier", false), ("nativegen.cli", false),
    ("nativegen.config", false), ("nativegen.discovery", false), ("nativegen.emitting", true),
    ("nativegen.emitting.builder", false), ("nativegen.emitting.constants", false),
    ("nativegen.extractor", false), ("nativegen.logging", false), ("nativegen.markers", false),
    ("nativegen.mathtypes", false), ("nativegen.models", false), ("nativegen.naming", false),
    ("nativegen.orchestrator", false), ("nativegen.reflection", false),
    ("nativegen.runtime", false), ("nativegen.service", true), ("nativegen.service.app", false),
    ("nativegen.writer", false)]

inductive Known where
  | package
  | module
  | unknown
  deriving DecidableEq, Repr

/-- What a full name is known as: a module, or a package because a module is inside it. -/
def known (r : Registry) (name : String) : Known :=
  let inside := (name ++ ".").toList
  if r.modules.any fun m => inside.isPrefixOf m.name.toList then .package
  else if (r.module? name).isSome then .module
  else match standardModules.lookup name with
    | some true => .package
    | some false => .module
    | none => .unknown

def missingModule (name : String) : Fault :=
  ⟨.missingModule, s!"No module named {Text.quoted name}"⟩

/-- Goes on along the parts of a name, inside the package of the parts before. -/
def enter (r : Registry) (before : List String) : List String → Except Fault Unit
  | [] => .ok ()
  | part :: rest =>
    let name := ".".intercalate (before ++ [part])
    let outer := ".".intercalate before
    if known r name != .unknown then enter r (before ++ [part]) rest
    else if before.isEmpty || known r outer == .package then .error (missingModule name)
    else .error ⟨.missingModule,
      s!"No module named {Text.quoted name}; {Text.quoted outer} is not a package"⟩

def findModule (r : Registry) (name : String) : Except Fault Unit :=
  match name.toList with
  | [] => .error ⟨.badValue, "Empty module name"⟩
  | '.' :: _ =>
    .error ⟨.badType,
      s!"the 'package' argument is required to perform a relative import for {Text.quoted name}"⟩
  | _ =>
    if (r.module? name).isSome then .ok () else enter r [] (Text.pieces '.' name)

/-- How modules are loaded by name: what is defined then, or the failure of a module that is not
there or that fails when it is run. -/
abbrev Loader := String → Registry → Except Fault Registry

def loadPresent : Loader := fun name r => do
  findModule r name
  return r

end StructForge.Discovery

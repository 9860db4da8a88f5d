import StructForge.Fault
import StructForge.Struct.Wellformed
import StructForge.Template.Reader
import StructForge.Template.Render
import StructForge.Text.Balanced
import StructForge.Text.Blank
import StructForge.Text.Split

/-! # Emitting a generated module

A struct without slots is not emitted. Otherwise its model is built and written out, either in the
standard form or by a template that takes its place, and the text must be readable. -/

namespace StructForge.Struct

open Schema

def standardTemplate : String := "native_struct.py.j2"

/-- Why nothing is emitted. -/
inductive EmitFault where
  | model (fault : ModelFault)
  | template (fault : Fault)
  | nullName
  | unreadable (fileName : String)
  deriving Repr

def EmitFault.toFault : EmitFault → Fault
  | .model f =>
    match f with
    | .reserved .. | .imports _ => ⟨.emission, f.message⟩
    | .noZero _ => ⟨.missingKey, f.message⟩
    | .arity .noElement => ⟨.badIndex, f.message⟩
    | .arity (.notAPair _) => ⟨.badValue, f.message⟩
  | .template f => f
  | .nullName => ⟨.badValue, "embedded null character"⟩
  | .unreadable fileName =>
    ⟨.emission, s!"Rendered {fileName} is not valid Python: a name or bracket is out of place"⟩

open Template in
def StructModel.record (m : StructModel) : Value :=
  let texts := fun ss : List String => Value.tuple (ss.map Value.text)
  let declaration := fun s : Slot =>
    Value.record "nativegen.emitting.builder.FieldDecl"
      [("name", .text s.name), ("annotation", .text s.content.declaration),
        ("default", .text s.content.default)]
  let step := fun (s : Slot) (kind element key value : String) (widen : Bool)
      (elementExpr keyExpr valueExpr : String) =>
    Value.record "nativegen.emitting.builder.ConversionStep"
      [("kind", .text kind), ("field", .text s.name), ("element", .text element),
        ("key", .text key), ("value", .text value), ("widen_key", .flag widen),
        ("element_expr", .text elementExpr), ("key_expr", .text keyExpr),
        ("value_expr", .text valueExpr)]
  let conversion := fun s : Slot =>
    match s.content with
    | .array element copy =>
      step s "sequence" element "" "" false (copy.text ("instance." ++ s.name ++ "[i]")) "key"
        "value"
    | .map key value keyCopy valueCopy =>
      step s "mapping" "" key value (keyCopy == .widen) "" keyCopy.text (valueCopy.text "value")
    | .vector3 => step s "vector3" "" "" "" false "" "key" "value"
    | .vector2 => step s "vector2" "" "" "" false "" "key" "value"
    | .scalar .. => step s "scalar" "" "" "" false "" "key" "value"
  .record "nativegen.emitting.builder.StructModel"
    [("type_name", .text m.typeName), ("source_path", .text m.sourcePath),
      ("source_expr", .text m.sourceExpr), ("slots", .text m.slotsText),
      ("runtime_module", .text runtimeModule),
      ("runtime_imports", texts (m.runtimeImports.map (·.text))),
      ("imports", .tuple (m.imports.map fun line =>
        .tuple [.text line.module, texts (line.names.map (·.text))])),
      ("needs_numpy", .flag m.needsNumpy), ("allocator", .text allocatorText),
      ("fields", .tuple (m.slots.map declaration)),
      ("conversions", .tuple (m.slots.map conversion)),
      ("releases", texts m.releases)]

/-- The text that a template gives for a model, with one line break at its end. -/
def StructModel.textBy (m : StructModel) (source : String) : Except Fault String := do
  let nodes ← Template.read source
  let text ← Template.renderAll [("model", m.record)] nodes
  return String.ofList (Text.dropTrailing '\n' text.toList) ++ "\n"

/-- The names along which a template is looked for. A name that leads upwards is refused. -/
def templateNames? (name : String) : Option (List String) :=
  let parts := Text.pieces '/' name
  if parts.contains ".." then none
  else some (parts.filter fun part => part != "" && part != ".")

/-- How a template is filled in for a model, and whether the text that comes of it is a program. -/
structure Engine where
  fill : String → StructModel → Except Fault String
  isProgram : String → Bool

def Engine.standard : Engine := ⟨fun source m => m.textBy source, Text.isBalanced⟩

/-- A template in place of the standard form. -/
structure Override where
  source : String
  engine : Engine

/-- Where templates come from: for the names along which a template is looked for, the one that takes
the place of the standard form, if there is one. -/
abbrev Templates := List String → Except Fault (Option Override)

def Templates.standard : Templates := fun _ => .ok none

/-- A text that is read once, as that of a file. The name of the file must not hold the null
character. -/
def checkText (fileName text : String) (readable : Bool) : Except EmitFault String :=
  if fileName.toList.contains '\x00' then .error .nullName
  else if readable then .ok text
  else .error (.unreadable fileName)

def StructModel.emitText (m : StructModel) (templates : Templates) (name fileName : String) :
    Except EmitFault String :=
  match templateNames? name with
  | none => .error (.template ⟨.missingTemplate, name⟩)
  | some names =>
    match templates names with
    | .error f => .error (.template f)
    | .ok (some o) =>
      match o.engine.fill o.source m with
      | .error f => .error (.template f)
      | .ok text => checkText fileName text (o.engine.isProgram text)
    | .ok none =>
      if names = [standardTemplate] then
        checkText fileName m.text m.isReadable
      else
        .error (.template ⟨.missingTemplate, s!"{Text.quoted name} not found in search paths: "⟩)

/-- The text of the generated module for some fields, none if there are no fields. -/
def emit (templates : Templates) (name : String) (t : Target) (fields : List Descriptor) :
    Except EmitFault (Option String) :=
  if fields.isEmpty then .ok none
  else
    match StructModel.build t fields with
    | .error f => .error (.model f)
    | .ok m =>
      match m.emitText templates name t.fileName with
      | .error f => .error f
      | .ok text => .ok (some text)

def emitLog (t : Target) (fields : List Descriptor) : LogRecord :=
  ⟨.debug, loggerName "emitter", s!"Rendered {t.fileName} with {fields.length} fields"⟩

end StructForge.Struct

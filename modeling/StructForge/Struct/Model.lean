import StructForge.Schema.FieldSet
import StructForge.Schema.Target
import StructForge.Struct.Imports
import StructForge.Text.Private

/-! # Models of generated structs

A model says what a generated module holds: its imports, and for each slot of the struct what kind
of content it has. What the struct declares, how it converts a source value, what its default is and
what it releases are all read off the slots. -/

namespace StructForge.Struct

open Schema

/-- How an element of a container is taken over: as it is, or component by component. -/
inductive Copy where
  | same
  | vector2
  | vector3
  deriving DecidableEq, Repr

/-- The way elements of a described type are taken over. -/
def Copy.ofType (r : TypeRef) : Copy :=
  match r.shape with
  | .vector3 => .vector3
  | .vector2 => .vector2
  | _ => .same

/-- The expression that takes over the value of an expression. -/
def Copy.text (c : Copy) (e : String) : String :=
  match c with
  | .same => e
  | .vector3 => s!"float3({e}.x, {e}.y, {e}.z)"
  | .vector2 => s!"float2({e}.x, {e}.y)"

/-- How a key of a mapping is taken over: an enum key becomes its number. -/
inductive KeyCopy where
  | widen
  | copy (how : Copy)
  deriving DecidableEq, Repr

def KeyCopy.text : KeyCopy → String
  | .widen => "int(key.value)"
  | .copy how => how.text "key"

/-- The value of a scalar slot in a default struct. -/
inductive Zero where
  | literal (text : String)
  | firstMember
  | construct
  deriving DecidableEq, Repr

/-- What a slot holds; types are given as expressions. -/
inductive Content where
  | array (element : String) (copy : Copy)
  | map (key value : String) (keyCopy : KeyCopy) (valueCopy : Copy)
  | vector3
  | vector2
  | scalar (type : String) (zero : Zero)
  deriving DecidableEq, Repr

structure Slot where
  name : String
  content : Content
  deriving DecidableEq, Repr

/-- The model of a generated module. -/
structure StructModel where
  typeName : String
  sourcePath : String
  sourceExpr : String
  runtimeImports : List RuntimeName
  imports : List ImportLine
  needsNumpy : Bool
  slots : List Slot
  deriving DecidableEq, Repr

def reservedMembers : List String := ["default", "dispose"]

def runtimeModule : String := "nativegen.runtime"

def allocatorText : String := "Allocator.PERSISTENT"

inductive ModelFault where
  | reserved (sourceName field : String)
  | imports (fault : ImportFault)
  | noZero (typeName : String)
  | arity (fault : ArityFault)
  deriving DecidableEq, Repr

def ModelFault.message : ModelFault → String
  | .reserved sourceName field => s!"{sourceName}.{field} collides with a generated member"
  | .imports fault => fault.message
  | .noZero typeName => Text.quoted typeName
  | .arity fault => fault.message

def builtinZero? : String → Option String
  | "bool" => some "False"
  | "int" => some "0"
  | "float" => some "0.0"
  | _ => none

def zeroOf (r : TypeRef) : Except ModelFault Zero :=
  if r.isEnum then .ok .firstMember
  else if r.module = "builtins" then
    match builtinZero? r.name with
    | some text => .ok (.literal text)
    | none => .error (.noZero r.name)
  else .ok .construct

abbrev Build := StateT Imports (Except ModelFault)

namespace Build

def expression (module qualname : String) : Build String := fun i =>
  match i.expression module qualname with
  | .ok r => .ok r
  | .error f => .error (.imports f)

def use (names : List RuntimeName) : Build Unit := modify (·.use names)

/-- The type of an element of a container. Vectors are stored as the library's own. -/
def elementType (r : TypeRef) : Build String :=
  match r.shape with
  | .vector3 => do use [.float3]; return "float3"
  | .vector2 => do use [.float2]; return "float2"
  | _ => expression r.module r.qualname

def content (d : Descriptor) : Build Content :=
  match d.category with
  | .sequence => do
    use [.allocator, .array]
    match d.type.args with
    | [] => throw (.arity .noElement)
    | element :: _ => return .array (← elementType element) (.ofType element)
  | .mapping => do
    use [.allocator, .map]
    match d.type.args with
    | [key, value] =>
      let keyType ← if key.isEnum then pure enumKeyName else elementType key
      let valueType ← elementType value
      let keyCopy := if key.isEnum then KeyCopy.widen else .copy (.ofType key)
      return .map keyType valueType keyCopy (.ofType value)
    | args => throw (.arity (.notAPair args.length))
  | .vector3 => do use [.float3]; return .vector3
  | .vector2 => do use [.float2]; return .vector2
  | .scalar => do
    let type ← expression d.type.module d.type.qualname
    match zeroOf d.type with
    | .ok zero => return .scalar type zero
    | .error f => throw f

def slot (sourceName : String) (d : Descriptor) : Build Slot :=
  if reservedMembers.contains d.name then throw (.reserved sourceName d.name)
  else return ⟨d.name, ← content d⟩

def module (t : Target) (fields : List Descriptor) : Build (String × List Slot) := do
  let sourceExpr ← expression t.sourceModule t.sourceQualname
  return (sourceExpr, ← fields.mapM (slot t.sourceName))

end Build

def StructModel.build (t : Target) (fields : List Descriptor) : Except ModelFault StructModel := do
  let ((sourceExpr, slots), imports) ← (Build.module t fields).run {}
  return {
    typeName := t.typeName
    sourcePath := t.sourcePath
    sourceExpr
    runtimeImports := imports.runtimeNames
    imports := imports.lines
    needsNumpy := imports.needsNumpy
    slots }

namespace Content

def isContainer : Content → Bool
  | .array .. | .map .. => true
  | _ => false

/-- The expressions of types that the methods evaluate for a slot. -/
def typeTexts : Content → List String
  | .array element _ => [element]
  | .map key value _ _ => [key, value]
  | .vector3 | .vector2 => []
  | .scalar type _ => [type]

def declaration : Content → String
  | .array element _ => s!"NativeArray[{element}]"
  | .map key value _ _ => s!"NativeHashMap[{key}, {value}]"
  | .vector3 => "float3"
  | .vector2 => "float2"
  | .scalar type _ => type

def default : Content → String
  | .array element _ => s!"NativeArray.unallocated({element})"
  | .map key value _ _ => s!"NativeHashMap.unallocated({key}, {value})"
  | .vector3 => "float3()"
  | .vector2 => "float2()"
  | .scalar _ (.literal text) => text
  | .scalar type .firstMember => s!"next(iter({type}))"
  | .scalar type .construct => s!"{type}(0)"

end Content

namespace StructModel

def slotsText (m : StructModel) : String :=
  match m.slots.map fun s => Text.quoted s.name with
  | [] => "()"
  | [one] => s!"({one},)"
  | names =>
    let inner := ", ".intercalate names
    s!"({inner})"

def releases (m : StructModel) : List String :=
  (m.slots.filter (·.content.isContainer)).map (·.name)

def className (m : StructModel) : String := Text.normal m.typeName

def read (m : StructModel) (name : String) : String := Text.readIn m.className name

/-- The names of the slots in the class. They are texts, so that they keep the form in which they
are written. -/
def slotNames (m : StructModel) : List String :=
  m.slots.map fun s => Text.ownedBy m.className s.name

end StructModel

end StructForge.Struct

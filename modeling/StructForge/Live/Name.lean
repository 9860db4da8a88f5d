import StructForge.Live.Union
import StructForge.Text.Split

/-! # Names of classes, hints and forms

Several names of the numeric library are other names of a number of fixed width. A bare name stands
for one of the classes that every program has, or for one of the bare hints. A form makes a hint of
other hints. -/

namespace StructForge.Live

open Number

/-- The fixed-width number that a name of the numeric library stands for. -/
def numericAlias? : String → Option Kind
  | "bool_" => some .bool
  | "byte" => some .int8
  | "short" => some .int16
  | "intc" => some .int32
  | "intp" | "int_" | "long" => some .int64
  | "ubyte" => some .uint8
  | "ushort" => some .uint16
  | "uintc" => some .uint32
  | "uintp" | "uint" | "ulong" => some .uint64
  | "half" => some .float16
  | "single" => some .float32
  | "double" => some .float64
  | name => Kind.ofName? name

def ClassRef.ofNumericName (name : String) : ClassRef :=
  match numericAlias? name with
  | some kind => .number kind
  | none =>
    match name with
    | "csingle" => .numeric "complex64"
    | "cdouble" => .numeric "complex128"
    | name => .numeric name

/-- The hint that a bare name stands for; a name of the numeric library is marked as one. -/
def Hint.ofName (name : String) : Hint :=
  match name with
  | "None" => .noneType
  | "Any" => .cls .anything
  | "List" => .capital .list
  | "Dict" => .capital .dict
  | "Tuple" => .capital .tuple
  | "Set" => .capital .set
  | "ClassVar" => .anyClassVar
  | "InitVar" => .cls .initVar
  | "Vector2" => .cls .vector2
  | "Vector3" => .cls .vector3
  | "float2" => .cls .float2
  | "float3" => .cls .float3
  | "NativeArray" => .cls .array
  | "NativeHashMap" => .cls .map
  | name =>
    match EnumBase.ofName? name, Text.pieces '.' name with
    | some base, _ => .cls (.enumBase base)
    | none, ["np", name] => .cls (.ofNumericName name)
    | none, _ => .cls (.builtin name)

def Hint.ofForm? (form : String) (args : List Hint) : Option (Except Fault Hint) :=
  match form, args with
  | "list", _ => some (.ok (.generic .list args))
  | "dict", _ => some (.ok (.generic .dict args))
  | "tuple", _ => some (.ok (.generic .tuple args))
  | "set", _ => some (.ok (.generic .set args))
  | "frozenset", _ => some (.ok (.generic .frozenset args))
  | "List", _ => some (Hint.capitalOf .list args)
  | "Dict", _ => some (Hint.capitalOf .dict args)
  | "Tuple", _ => some (Hint.capitalOf .tuple args)
  | "Set", _ => some (Hint.capitalOf .set args)
  | "Union", _ => some (Hint.checkedUnion args)
  | "or", _ => some (Hint.alternatively args)
  | "Optional", [h] => some (Hint.checkedUnion [h, .noneType])
  | "ClassVar", [h] => some (h.checkArgument.map .classVar)
  | "Final", [h] => some (h.checkArgument.map .final)
  | "InitVar", [h] => some (.ok (.initVar h))
  | _, _ => none

end StructForge.Live

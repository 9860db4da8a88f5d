import StructForge.Fault
import StructForge.Live.Value
import StructForge.Number.Literal

/-! # Values as numbers -/

namespace StructForge.Live

open Number

def literalFault (f : LiteralFault) : Fault := ⟨.badValue, f.message⟩

/-- A floating-point value without its fraction. -/
def wholeOf (x : Binary) : Except Fault Int :=
  match x with
  | .nan => .error ⟨.badValue, "cannot convert float NaN to integer"⟩
  | .infinite _ => .error ⟨.overflow, "cannot convert float infinity to integer"⟩
  | x => .ok (x.truncate?.getD 0)

def doubleOf (i : Int) : Except Fault Binary :=
  match double? i with
  | some x => .ok x
  | none => .error ⟨.overflow, "int too large to convert to float"⟩

def scalarWhole : Scalar → Except Fault Int
  | .bool b => .ok (Scalar.ofBool b)
  | .int i => .ok i
  | .float x => wholeOf x

def scalarDouble : Scalar → Except Fault Binary
  | .bool b => doubleOf (Scalar.ofBool b)
  | .int i => doubleOf i
  | .float x => .ok x

namespace Value

def toInt : Value → Except Fault Int
  | .bool b => .ok (Scalar.ofBool b)
  | .int i => .ok i
  | .float x => wholeOf x
  | .number _ x => scalarWhole x
  | .text s => (readInt s).mapError literalFault
  | .member cls base _ value =>
    if base == .plain || base == .flag then
      .error ⟨.badType, "int() argument must be a string, a bytes-like object or a real number, " ++
        s!"not '{cls.name}'"⟩
    else value.toInt
  | v =>
    .error ⟨.badType, "int() argument must be a string, a bytes-like object or a real number, " ++
      s!"not '{v.typeName}'"⟩

def toFloat : Value → Except Fault Binary
  | .bool b => doubleOf (Scalar.ofBool b)
  | .int i => doubleOf i
  | .float x => .ok x
  | .number _ x => scalarDouble x
  | .text s => (readFloat .double s).mapError literalFault
  | .member cls base _ value =>
    if base == .plain || base == .flag then
      .error ⟨.badType, s!"float() argument must be a string or a real number, not '{cls.name}'"⟩
    else value.toFloat
  | v => .error ⟨.badType,
      s!"float() argument must be a string or a real number, not '{v.typeName}'"⟩

end Value

end StructForge.Live

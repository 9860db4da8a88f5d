import StructForge.Number.Arithmetic
import StructForge.Number.Literal
import StructForge.Number.Text
import StructForge.Text.Base64
import StructForge.Text.Case
import StructForge.Text.Split
import StructForge.Yaml.Node

/-! # Data of a document

The nodes of a document stand for data. Whether every node stands for something is settled first,
collections of one depth before what they hold, and the first fault found in that order is the
document's. -/

namespace StructForge.Yaml

open Number

/-- Data of a document. Dates are not told apart. -/
inductive Data where
  | null
  | bool (b : Bool)
  | int (i : Int)
  | float (x : Binary)
  | text (s : String)
  | date
  | octets (bs : List UInt8)
  | list (items : List Data)
  | pair (first second : Data)
  | map (entries : List (Data × Data))
  | set (entries : List Data)
  | endless
  deriving Repr

instance : Inhabited Data := ⟨.null⟩

namespace Data

/-- Whether a value counts as absent: nothing, false, zero and what is empty. -/
def isBlank : Data → Bool
  | .null => true
  | .bool b => !b
  | .int i => i == 0
  | .float x => x.isZero
  | .text s => s.isEmpty
  | .octets bs => bs.isEmpty
  | .list items => items.isEmpty
  | .map entries => entries.isEmpty
  | .set entries => entries.isEmpty
  | .date | .pair .. | .endless => false

/-- The value of a text key; of several equal keys the last one counts. -/
def find? (d : Data) (key : String) : Option Data :=
  match d with
  | .map entries => (entries.reverse.find? fun (k, _) => match k with
    | .text s => s == key
    | _ => false).map (·.2)
  | _ => none

end Data

private def badLiteral (base : Nat) (s : String) : DocFault :=
  let shown := String.ofList ((Text.quoted s).toList.take 200)
  .value .badValue s!"invalid literal for int() with base {base}: {shown}"

def digitIn? (base : Nat) (c : Char) : Option Nat := (Text.hexValue? c).filter (· < base)

/-- Reads a whole number in base two, eight or sixteen. The base may be repeated in front of the
digits. -/
def readInBase (base : Nat) (s : String) : Except DocFault Int :=
  let (negative, body) := splitSign (plainForm s.toList)
  let mark := if base = 2 then 'b' else if base = 8 then 'o' else 'x'
  let body := match body with
    | '0' :: m :: rest => if m.toLower == mark && !rest.isEmpty then rest else body
    | body => body
  match body.mapM (digitIn? base) with
  | some (d :: ds) =>
    let n : Nat := (d :: ds).foldl (fun n d => base * n + d) 0
    .ok (if negative then -(n : Int) else n)
  | _ => .error (badLiteral base s)

private def readWhole (s : String) : Except DocFault Int :=
  (readInt s).mapError fun f => .value .badValue f.message

private def readReal (s : String) : Except DocFault Binary :=
  (readFloat .double s).mapError fun f => .value .badValue f.message

def signOf (s : String) : Except DocFault (Bool × String) :=
  match s.toList with
  | [] => .error (.value .badIndex "string index out of range")
  | c :: rest => .ok (c == '-', if c == '-' || c == '+' then String.ofList rest else s)

def dropBars (s : String) : String := String.ofList (s.toList.filter (· != '_'))

/-- The whole number that a scalar stands for. -/
def intOf (s : String) : Except DocFault Int := do
  let (negative, body) ← signOf (dropBars s)
  let n ←
    if body == "0" then pure 0
    else match body.toList with
      | '0' :: 'b' :: rest => readInBase 2 (String.ofList rest)
      | '0' :: 'x' :: rest => readInBase 16 (String.ofList rest)
      | [] => throw (.value .badIndex "string index out of range")
      | '0' :: _ => readInBase 8 body
      | cs =>
        if cs.contains ':' then
          let digits ← (Text.pieces ':' body).mapM readWhole
          pure (digits.foldl (fun n d => 60 * n + d) 0)
        else readWhole body
  return if negative then -n else n

/-- The sum of sexagesimal digits, the last one first. -/
def sixtiesSum : Binary → Nat → List Binary → Binary
  | sum, _, [] => sum
  | sum, base, d :: ds => sixtiesSum (sum.add (d.scale base)) (base * 60) ds

/-- The floating-point value that a scalar stands for. -/
def floatOf (s : String) : Except DocFault Binary := do
  let (negative, body) ← signOf (Text.lower (dropBars s))
  let x ←
    if body == ".inf" then pure (Binary.infinite false)
    else if body == ".nan" then return .nan
    else if body.toList.contains ':' then
      let digits ← (Text.pieces ':' body).mapM readReal
      pure (sixtiesSum .zero 1 digits.reverse)
    else readReal body
  return if negative then x.negate else x

def daysIn (year month : Nat) : Nat :=
  match month with
  | 2 => if year % 4 = 0 ∧ (year % 100 ≠ 0 ∨ year % 400 = 0) then 29 else 28
  | 4 | 6 | 9 | 11 => 30
  | _ => 31

def offsetText (negative : Bool) (minutes : Nat) : String :=
  let seconds : Int := if negative then -(minutes * 60 : Int) else minutes * 60
  let days := seconds / 86400
  let rest := seconds % 86400
  if rest = 0 then s!"datetime.timedelta(days={days})"
  else s!"datetime.timedelta(days={days}, seconds={rest})"

def checkDate (s : String) : Except DocFault Unit := do
  let bad := fun message => throw (.value .badValue message)
  match readDate true s with
  | none =>
    throw (.value .missingAttribute "'NoneType' object has no attribute 'groupdict'")
  | some d =>
    match d.offset with
    | some (negative, hours, minutes) =>
      if 24 * 60 ≤ hours * 60 + minutes then
        bad ("offset must be a timedelta strictly between -timedelta(hours=24) and " ++
          s!"timedelta(hours=24), not {offsetText negative (hours * 60 + minutes)}.")
    | none => pure ()
    if d.year = 0 then bad "year 0 is out of range"
    if d.month = 0 ∨ 12 < d.month then bad "month must be in 1..12"
    if d.day = 0 ∨ daysIn d.year d.month < d.day then bad "day is out of range for month"
    match d.time with
    | some (hour, minute, second) =>
      if 23 < hour then bad "hour must be in 0..23"
      if 59 < minute then bad "minute must be in 0..59"
      if 59 < second then bad "second must be in 0..59"
    | none => pure ()

def scalarData (kind : Kind) (s : String) : Except DocFault Data :=
  match kind with
  | .null => .ok .null
  | .bool =>
    let word := Text.lower s
    if trueWords.contains word then .ok (.bool true)
    else if falseWords.contains word then .ok (.bool false)
    else .error (.value .missingKey (Text.quoted word))
  | .int => do return .int (← intOf s)
  | .float => do return .float (← floatOf s)
  | .timestamp => do
    checkDate s
    return .date
  | .str => .ok (.text s)
  | .binary =>
    if s.toList.all (·.toNat < 0x80) then
      match Text.base64? s with
      | some bs => .ok (.octets bs)
      | none => .error (.malformed "failed to decode base64 data")
    else .error (.malformed "failed to convert base64 data into ascii")
  | .seq | .omap | .pairs => .error (.malformed "expected a sequence node")
  | .map | .set => .error (.malformed "expected a mapping node")
  | .merge | .value => .error (.malformed "could not determine a constructor for the tag")

def kindOf (tag : String) : Except DocFault Kind :=
  match Kind.ofTag? tag with
  | some kind => .ok kind
  | none => .error (.malformed "could not determine a constructor for the tag")

private def isTagged (kind : Kind) (tag : String) : Bool := tag == coreTag ++ kind.name

/-- The entries of a mapping with those merged into it in front; the fuel bounds how deep mappings
are merged into each other. -/
def mergedEntries : Nat → List (Node × Node) → Except DocFault (List (Node × Node))
  | 0, entries => .ok entries
  | fuel + 1, entries => do
    let split ← entries.mapM fun (k, v) =>
      match k with
      | .scalar tag text =>
        if isTagged .merge tag then
          match v with
          | .mapping _ inner => do return (← mergedEntries fuel inner, [])
          | .sequence _ items => do
            let inner ← items.mapM fun item =>
              match item with
              | .mapping _ inner => mergedEntries fuel inner
              | _ => .error (.malformed "expected a mapping for merging")
            return (inner.reverse.flatten, [])
          | _ => .error (.malformed "expected a mapping or list of mappings for merging")
        else if isTagged .value tag then .ok ([], [(.scalar (coreTag ++ Kind.str.name) text, v)])
        else .ok ([], [(k, v)])
      | k => .ok ([], [(k, v)])
    return (split.map (·.1)).flatten ++ (split.map (·.2)).flatten

def mergeDepth : Nat := 64

/-- The text of a scalar; a mapping with the value mark as a key has the text of that value. -/
def scalarText : Nat → Node → Option String
  | _, .scalar _ text => some text
  | fuel + 1, .mapping _ entries =>
    (entries.find? fun (k, _) => match k with
      | .scalar tag _ => isTagged .value tag
      | _ => false).bind fun (_, v) => scalarText fuel v
  | _, _ => none

abbrev Later := List Node

/-- Checks a node without looking into it; a collection is put off. -/
def checkNode (n : Node) : Except DocFault Later :=
  match n with
  | .enclosing _ => .ok []
  | .scalar tag text => do
    let _ ← scalarData (← kindOf tag) text
    return []
  | .sequence tag _ => do
    match ← kindOf tag with
    | .seq | .omap | .pairs | .map | .set => return [n]
    | _ => throw (.malformed "expected a scalar node")
  | .mapping tag _ => do
    match ← kindOf tag with
    | .map | .set | .seq | .omap | .pairs => return [n]
    | .merge | .value => throw (.malformed "could not determine a constructor for the tag")
    | kind =>
      match scalarText mergeDepth n with
      | some text => do
        let _ ← scalarData kind text
        return []
      | none => throw (.malformed "expected a scalar node")

def isKeyNode (n : Node) : Bool :=
  match n with
  | .scalar .. => true
  | .enclosing _ => false
  | .sequence tag _ | .mapping tag _ =>
    match Kind.ofTag? tag with
    | some .seq | some .omap | some .pairs | some .map | some .set => false
    | _ => true

def checkEntry (k v : Node) : Except DocFault Later := do
  let first ← checkNode k
  if !isKeyNode k then throw (.malformed "found unhashable key")
  return first ++ (← checkNode v)

def checkInside (n : Node) : Except DocFault Later := do
  match n with
  | .sequence tag items =>
    match ← kindOf tag with
    | .seq => return (← items.mapM checkNode).flatten
    | .omap | .pairs =>
      let parts ← items.mapM fun item =>
        match item with
        | .mapping _ [(k, v)] => do return (← checkNode k) ++ (← checkNode v)
        | .mapping .. => throw (.malformed "expected a single mapping item")
        | _ => throw (.malformed "expected a mapping of length 1")
      return parts.flatten
    | _ => throw (.malformed "expected a mapping node")
  | .mapping tag entries =>
    match ← kindOf tag with
    | .map | .set =>
      let entries ← mergedEntries mergeDepth entries
      return (← entries.mapM fun (k, v) => checkEntry k v).flatten
    | _ => throw (.malformed "expected a sequence node")
  | _ => return []

/-- Checks collections, those of one depth before what they hold; the fuel bounds the depth. -/
def checkAll : Nat → Later → Except DocFault Unit
  | 0, _ => .ok ()
  | fuel + 1, later => do
    if later.isEmpty then return
    checkAll fuel (← later.mapM checkInside).flatten

mutual

def Node.depth : Node → Nat
  | .scalar .. | .enclosing _ => 1
  | .sequence _ items => depthAll items + 1
  | .mapping _ entries => depthEntries entries + 1

/-- How deep the deepest of several nodes is nested. -/
def depthAll : List Node → Nat
  | [] => 0
  | n :: ns => max n.depth (depthAll ns)

/-- How deep the deepest node of several entries is nested. -/
def depthEntries : List (Node × Node) → Nat
  | [] => 0
  | (k, v) :: ns => max (max k.depth v.depth) (depthEntries ns)

end

/-- The datum of a node; the fuel bounds the depth. -/
def dataOf : Nat → Node → Except DocFault Data
  | 0, _ => .ok .endless
  | fuel + 1, n => do
    match n with
    | .enclosing _ => return .endless
    | .scalar tag text => scalarData (← kindOf tag) text
    | .sequence tag items =>
      match ← kindOf tag with
      | .omap | .pairs =>
        return .list (← items.mapM fun item =>
          match item with
          | .mapping _ [(k, v)] => do return .pair (← dataOf fuel k) (← dataOf fuel v)
          | _ => return .endless)
      | _ => return .list (← items.mapM (dataOf fuel))
    | .mapping tag entries =>
      match ← kindOf tag with
      | .map =>
        let entries ← mergedEntries mergeDepth entries
        return .map (← entries.mapM fun (k, v) => do return (← dataOf fuel k, ← dataOf fuel v))
      | .set =>
        let entries ← mergedEntries mergeDepth entries
        return .set (← entries.mapM fun (k, _) => dataOf fuel k)
      | kind => scalarData kind ((scalarText mergeDepth n).getD "")

/-- How the text of a document is read. -/
abbrev DocumentReader := String → Except DocFault Data

/-- The datum of the only document in a text; no document stands for nothing. -/
def Data.ofText : DocumentReader := fun text => do
  match ← Node.ofText text with
  | none => return .null
  | some n =>
    let later ← checkNode n
    checkAll (2 * n.depth + mergeDepth) later
    dataOf (2 * n.depth + mergeDepth) n

end StructForge.Yaml

import StructForge.Text.Digit

/-! # Meaning of plain scalars

A plain scalar without a tag is a truth value, a number, a date, a merge mark or nothing if it is
spelled like one, and a text otherwise. -/

namespace StructForge.Yaml

open Text

def coreTag : String := "tag:yaml.org,2002:"

/-- Kinds of scalars and collections that have a tag of their own. -/
inductive Kind where
  | null
  | bool
  | int
  | float
  | timestamp
  | merge
  | value
  | str
  | binary
  | seq
  | map
  | set
  | omap
  | pairs
  deriving DecidableEq, Repr

namespace Kind

def name : Kind → String
  | .null => "null"
  | .bool => "bool"
  | .int => "int"
  | .float => "float"
  | .timestamp => "timestamp"
  | .merge => "merge"
  | .value => "value"
  | .str => "str"
  | .binary => "binary"
  | .seq => "seq"
  | .map => "map"
  | .set => "set"
  | .omap => "omap"
  | .pairs => "pairs"

def all : List Kind :=
  [.null, .bool, .int, .float, .timestamp, .merge, .value, .str, .binary, .seq, .map, .set, .omap,
    .pairs]

def ofTag? (tag : String) : Option Kind := all.find? fun k => coreTag ++ k.name == tag

end Kind

/-- Texts that are true, in lower case. -/
def trueWords : List String := ["yes", "true", "on"]

/-- Texts that are false, in lower case. -/
def falseWords : List String := ["no", "false", "off"]

/-- A word in lower case, with a capital first letter, and in capitals. -/
def casings (word : String) : List String :=
  [word, word.capitalize, String.ofList (word.toList.map Char.toUpper)]

def isBoolText (s : String) : Bool :=
  ((trueWords ++ falseWords).flatMap casings).contains s

def isNullText (s : String) : Bool := s.isEmpty || s == "~" || (casings "null").contains s

def dropSign : List Char → List Char
  | '+' :: rest | '-' :: rest => rest
  | cs => cs

private def isDigitOrBar (c : Char) : Bool := isAsciiDigit c || c == '_'

/-- Whether a text begins with a digit and goes on with digits and underscores up to groups of
sexagesimal digits. -/
def isSixtiesText (leading : Char → Bool) (cs : List Char) : Bool :=
  match cs with
  | [] => false
  | c :: rest =>
    let tail := rest.dropWhile isDigitOrBar
    leading c && tail.head? == some ':' && isSixtiesGroups tail
where
  isSixtiesGroups (cs : List Char) : Bool := groups cs.length cs
  groups : Nat → List Char → Bool
    | _, [] => true
    | 0, _ => false
    | fuel + 1, ':' :: rest =>
      let g := rest.takeWhile isAsciiDigit
      (match g with
      | [_] => true
      | [a, _] => '0' ≤ a && a ≤ '5'
      | _ => false) && groups fuel (rest.dropWhile isAsciiDigit)
    | _, _ => false

def isIntText (s : String) : Bool :=
  let cs := dropSign s.toList
  match cs with
  | '0' :: 'b' :: rest => !rest.isEmpty && rest.all fun c => c == '0' || c == '1' || c == '_'
  | '0' :: 'x' :: rest =>
    !rest.isEmpty && rest.all fun c => isAsciiDigit c || c == '_' || ('a' ≤ c && c ≤ 'f') ||
      ('A' ≤ c && c ≤ 'F')
  | ['0'] => true
  | '0' :: rest => rest.all fun c => ('0' ≤ c && c ≤ '7') || c == '_'
  | c :: rest =>
    (isAsciiDigit c && rest.all isDigitOrBar) || isSixtiesText (fun c => '1' ≤ c && c ≤ '9') cs
  | [] => false

/-- Whether a text is an exponent: a mark, a sign and digits, or nothing. -/
def isExponent : List Char → Bool
  | [] => true
  | e :: sign :: digits =>
    (e == 'e' || e == 'E') && (sign == '+' || sign == '-') && !digits.isEmpty &&
      digits.all isAsciiDigit
  | _ => false

def isFloatText (s : String) : Bool :=
  let signed := dropSign s.toList
  let named := [".inf", ".Inf", ".INF"].contains (String.ofList signed) ||
    [".nan", ".NaN", ".NAN"].contains s
  let positional := match signed with
    | c :: rest =>
      isAsciiDigit c && match rest.dropWhile isDigitOrBar with
        | '.' :: rest => isExponent (rest.dropWhile isDigitOrBar)
        | _ => false
    | [] => false
  let pointed := match s.toList with
    | '.' :: c :: rest => isAsciiDigit c && isExponent (rest.dropWhile isDigitOrBar)
    | _ => false
  let sixties :=
    let body := signed.takeWhile (· != '.')
    let rest := signed.dropWhile (· != '.')
    !rest.isEmpty && rest.tail.all isDigitOrBar && isSixtiesText isAsciiDigit body
  named || positional || pointed || sixties

structure DateParts where
  year : Nat
  month : Nat
  day : Nat
  time : Option (Nat × Nat × Nat) := none
  offset : Option (Bool × Nat × Nat) := none
  deriving DecidableEq, Repr

def takeDigits (least most : Nat) (cs : List Char) : Option (Nat × List Char) :=
  let ds := (cs.take most).takeWhile isAsciiDigit
  if ds.length < least then none else some (ofDigits ds, cs.drop ds.length)

def takeChar (c : Char) : List Char → Option (List Char)
  | [] => none
  | x :: rest => if x == c then some rest else none

private def dropGap (cs : List Char) : List Char := cs.dropWhile fun c => c == ' ' || c == '\t'

def readOffset (cs : List Char) : Option (Option (Bool × Nat × Nat)) :=
  match dropGap cs with
  | [] => if cs.isEmpty then some none else none
  | ['Z'] => some none
  | sign :: rest =>
    if sign == '+' || sign == '-' then do
      let (hours, rest) ← takeDigits 1 2 rest
      match rest with
      | [] => return some (sign == '-', hours, 0)
      | ':' :: rest =>
        let (minutes, rest) ← takeDigits 2 2 rest
        if rest.isEmpty then return some (sign == '-', hours, minutes) else none
      | _ => none
    else none

/-- The parts of a date. A date without a time of day has two digits in its month and day, unless
`loose` holds. -/
def readDate (loose : Bool) (s : String) : Option DateParts := do
  let (year, rest) ← takeDigits 4 4 s.toList
  let rest ← takeChar '-' rest
  let (month, afterMonth) ← takeDigits 1 2 rest
  let rest' ← takeChar '-' afterMonth
  let (day, rest'') ← takeDigits 1 2 rest'
  if rest''.isEmpty then
    let full := rest.length == 5 && rest'.length == 2
    if loose || full then return { year, month, day } else none
  else
    let rest ← match rest'' with
      | 'T' :: rest | 't' :: rest => some rest
      | rest => if dropGap rest == rest then none else some (dropGap rest)
    let (hour, rest) ← takeDigits 1 2 rest
    let rest ← takeChar ':' rest
    let (minute, rest) ← takeDigits 2 2 rest
    let rest ← takeChar ':' rest
    let (second, rest) ← takeDigits 2 2 rest
    let rest := match rest with
      | '.' :: rest => rest.dropWhile isAsciiDigit
      | rest => rest
    let offset ← readOffset rest
    return { year, month, day, time := some (hour, minute, second), offset }

def plainKind (s : String) : Kind :=
  if isBoolText s then .bool
  else if isFloatText s then .float
  else if isIntText s then .int
  else if s == "<<" then .merge
  else if isNullText s then .null
  else if (readDate false s).isSome then .timestamp
  else if s == "=" then .value
  else .str

end StructForge.Yaml

import StructForge.Live.Expression

/-! # Reading annotations

A text among hints is cut into words and read as an expression. Strings with prefixes or escapes,
numbers with fractions, operators other than the vertical bar, calls and displays are not read. -/

namespace StructForge.Live

open Text

inductive Word where
  | name (s : String)
  | text (s : String)
  | number (n : Nat)
  | symbol (c : Char)
  deriving DecidableEq, Repr

def symbols : List Char := ['.', ',', '|', '(', ')', '[', ']']

/-- Cuts an annotation into words; the fuel bounds the number of characters. -/
def words? : Nat → List Char → Option (List Word)
  | _, [] => some []
  | 0, _ => none
  | fuel + 1, c :: rest =>
    if c = ' ' ∨ c = '\t' then words? fuel rest
    else if isIdentifierStart c then
      let name := String.ofList (c :: rest.takeWhile isIdentifierContinue)
      (words? fuel (rest.dropWhile isIdentifierContinue)).map (.name (normal name) :: ·)
    else if isAsciiDigit c then
      let digits := c :: rest.takeWhile isAsciiDigit
      (words? fuel (rest.dropWhile isAsciiDigit)).map (.number (ofDigits digits) :: ·)
    else if c = '\x22' ∨ c = '\x27' then
      let inside := rest.takeWhile (· ≠ c)
      match rest.dropWhile (· ≠ c) with
      | [] => none
      | _ :: after =>
        if inside.contains '\\' || inside.contains '\n' then none
        else (words? fuel after).map (.text (String.ofList inside) :: ·)
    else if symbols.contains c then (words? fuel rest).map (.symbol c :: ·)
    else none

def ofWord? (name : String) : Option Expression :=
  match name with
  | "None" => some (.constant .none)
  | "True" => some (.constant (.bool true))
  | "False" => some (.constant (.bool false))
  | name => if reservedWords.contains name then none else some (.name name)

/-- Items between brackets, where one without a comma stands for itself. -/
def grouped : List Expression × Bool → Expression
  | ([e], false) => e
  | (es, _) => .tuple es

mutual

def takeAlternatives : Nat → List Word → Option (Expression × List Word)
  | 0, _ => none
  | fuel + 1, ws => do
    let (e, ws) ← takeOperand fuel ws
    takeFurther fuel e ws

def takeFurther : Nat → Expression → List Word → Option (Expression × List Word)
  | fuel + 1, e, .symbol '|' :: ws => do
    let (next, ws) ← takeOperand fuel ws
    takeFurther fuel (.either e next) ws
  | _, e, ws => some (e, ws)

def takeOperand : Nat → List Word → Option (Expression × List Word)
  | 0, _ => none
  | fuel + 1, ws =>
    match ws with
    | .name s :: ws => (ofWord? s).bind fun e => takeAttached fuel e ws
    | .text s :: ws => takeAttached fuel (.constant (.text s)) ws
    | .number n :: ws => takeAttached fuel (.constant (.int n)) ws
    | .symbol '.' :: .symbol '.' :: .symbol '.' :: ws => takeAttached fuel .ellipsis ws
    | .symbol '(' :: ws => do
      let (items, ws) ← takeItems fuel ')' ws
      takeAttached fuel (grouped items) ws
    | _ => none

def takeAttached : Nat → Expression → List Word → Option (Expression × List Word)
  | fuel + 1, e, .symbol '.' :: .name s :: ws => takeAttached fuel (.access e s) ws
  | fuel + 1, e, .symbol '[' :: ws => do
    let (items, ws) ← takeItems fuel ']' ws
    if items.1.isEmpty then none else takeAttached fuel (.item e (grouped items)) ws
  | _, e, ws => some (e, ws)

/-- Items up to a closing bracket, and whether there is a comma among them. -/
def takeItems : Nat → Char → List Word → Option ((List Expression × Bool) × List Word)
  | 0, _, _ => none
  | fuel + 1, closing, ws =>
    if ws.head? = some (.symbol closing) then some (([], false), ws.tail)
    else do
      let (e, ws) ← takeAlternatives fuel ws
      match ws with
      | .symbol ',' :: ws =>
        let ((es, _), ws) ← takeItems fuel closing ws
        return ((e :: es, true), ws)
      | .symbol c :: ws => if c = closing then some (([e], false), ws) else none
      | _ => none

end

/-- The expression that a text is. Items at its end need no brackets, and blanks at its start are
not allowed. -/
def Expression.ofText? (s : String) : Option Expression :=
  if s.toList.head?.any isBlank then none
  else do
    let ws ← words? s.length s.toList
    let (items, rest) ← takeItems (4 * ws.length + 4) ')' (ws ++ [.symbol ')'])
    if rest.isEmpty && !items.1.isEmpty then some (grouped items) else none

end StructForge.Live

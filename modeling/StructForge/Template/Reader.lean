import StructForge.Fault
import StructForge.Template.Syntax
import StructForge.Text.Blank
import StructForge.Text.Digit
import StructForge.Text.Identifier
import StructForge.Text.Quoted

/-! # Reading templates

A template is first cut into literal text, printed expressions and block tags, then the tags are
matched with each other. The line break after a tag and the blanks that stand before a tag at the
start of its line belong to the tag. -/

namespace StructForge.Template

open Text

private def formFault (message : String) : Fault := ⟨.templateForm, message⟩

inductive Word where
  | name (s : String)
  | text (s : String)
  | number (n : Nat)
  | symbol (s : String)
  deriving DecidableEq, Repr

/-- The characters of a quoted text up to its closing quote, and what follows it. -/
def quotedText (quote : Char) : List Char → Option (List Char × List Char)
  | [] => none
  | '\\' :: c :: rest =>
    let shown := if c = 'n' then '\n' else if c = 't' then '\t' else c
    (quotedText quote rest).map fun (cs, after) => (shown :: cs, after)
  | c :: rest =>
    if c = quote then some ([], rest)
    else (quotedText quote rest).map fun (cs, after) => (c :: cs, after)

/-- Cuts an expression into words; the fuel bounds the number of characters. -/
def words : Nat → List Char → Except Fault (List Word)
  | 0, _ => .ok []
  | _, [] => .ok []
  | fuel + 1, c :: rest =>
    if isBlank c then words fuel rest
    else if isIdentifierStart c then do
      let name := c :: rest.takeWhile isIdentifierContinue
      return .name (String.ofList name) :: (← words fuel (rest.dropWhile isIdentifierContinue))
    else if isAsciiDigit c then do
      let digits := c :: rest.takeWhile isAsciiDigit
      return .number (ofDigits digits) :: (← words fuel (rest.dropWhile isAsciiDigit))
    else if c = '\x22' ∨ c = '\x27' then
      match quotedText c rest with
      | some (cs, after) => do return .text (String.ofList cs) :: (← words fuel after)
      | none => .error (formFault s!"unexpected char {quoted (String.singleton c)} at 0")
    else
      match c, rest with
      | '=', '=' :: after => do return .symbol "==" :: (← words fuel after)
      | '!', '=' :: after => do return .symbol "!=" :: (← words fuel after)
      | _, _ => do return .symbol (String.singleton c) :: (← words fuel rest)

abbrev Take (α : Type) := List Word → Except Fault (α × List Word)

private def unexpected (ws : List Word) : Fault :=
  match ws with
  | [] => formFault "unexpected end of template"
  | .name s :: _ => formFault s!"unexpected {quoted s}"
  | .text s :: _ => formFault s!"unexpected {quoted s}"
  | .number n :: _ => formFault s!"unexpected '{n}'"
  | .symbol s :: _ => formFault s!"unexpected {quoted s}"

mutual

def takeExpr : Nat → Take Expr
  | 0, ws => .error (unexpected ws)
  | fuel + 1, ws => do
    let (a, ws) ← takeBoth fuel ws
    match ws with
    | .name "or" :: ws =>
      let (b, ws) ← takeExpr fuel ws
      return (.either a b, ws)
    | _ => return (a, ws)

/-- Operands joined by `and`. -/
def takeBoth : Nat → Take Expr
  | 0, ws => .error (unexpected ws)
  | fuel + 1, ws => do
    let (a, ws) ← takeNegation fuel ws
    match ws with
    | .name "and" :: ws =>
      let (b, ws) ← takeBoth fuel ws
      return (.both a b, ws)
    | _ => return (a, ws)

/-- An operand with `not` in front, or a comparison. -/
def takeNegation : Nat → Take Expr
  | 0, ws => .error (unexpected ws)
  | fuel + 1, ws =>
    match ws with
    | .name "not" :: ws => do
      let (e, ws) ← takeNegation fuel ws
      return (.negation e, ws)
    | _ => do
      let (a, ws) ← takeOperand fuel ws
      match ws with
      | .symbol "==" :: ws =>
        let (b, ws) ← takeOperand fuel ws
        return (.equal a b, ws)
      | .symbol "!=" :: ws =>
        let (b, ws) ← takeOperand fuel ws
        return (.negation (.equal a b), ws)
      | _ => return (a, ws)

def takeOperand : Nat → Take Expr
  | 0, ws => .error (unexpected ws)
  | fuel + 1, ws =>
    match ws with
    | .name "true" :: ws | .name "True" :: ws => takeAttached fuel (.flag true) ws
    | .name "false" :: ws | .name "False" :: ws => takeAttached fuel (.flag false) ws
    | .name s :: ws => takeAttached fuel (.name s) ws
    | .text s :: ws => takeAttached fuel (.text s) ws
    | .number n :: ws => takeAttached fuel (.number n) ws
    | .symbol "(" :: ws => do
      let (e, ws) ← takeExpr fuel ws
      match ws with
      | .symbol ")" :: ws => takeAttached fuel e ws
      | _ => .error (unexpected ws)
    | _ => .error (unexpected ws)

def takeAttached : Nat → Expr → Take Expr
  | 0, _, ws => .error (unexpected ws)
  | fuel + 1, e, ws =>
    match ws with
    | .symbol "." :: .name s :: ws => takeAttached fuel (.attribute e s) ws
    | .symbol "." :: .number n :: ws => takeAttached fuel (.item e (.number n)) ws
    | .symbol "[" :: ws => do
      let (index, ws) ← takeExpr fuel ws
      match ws with
      | .symbol "]" :: ws => takeAttached fuel (.item e index) ws
      | _ => .error (unexpected ws)
    | .symbol "|" :: .name s :: .symbol "(" :: .symbol ")" :: ws =>
      takeAttached fuel (.filter e s) ws
    | .symbol "|" :: .name s :: .symbol "(" :: ws => do
      let (argument, ws) ← takeExpr fuel ws
      match ws with
      | .symbol ")" :: ws => takeAttached fuel (.filterWith e s argument) ws
      | _ => .error (unexpected ws)
    | .symbol "|" :: .name s :: ws => takeAttached fuel (.filter e s) ws
    | _ => .ok (e, ws)

end

def exprOfWords (ws : List Word) : Except Fault Expr := do
  let (e, rest) ← takeExpr (8 * ws.length + 8) ws
  if rest.isEmpty then return e else .error (unexpected rest)

/-- A template cut into pieces: literal text, printed expressions and tags. -/
inductive Piece where
  | text (s : List Char)
  | print (words : List Word)
  | tag (words : List Word)
  deriving Repr

/-- The characters up to a closing mark outside quotes, and what follows the mark. -/
def untilClose (mark : Char) : Option Char → List Char → Option (List Char × List Char)
  | _, [] => none
  | some quote, '\\' :: c :: rest =>
    (untilClose mark (some quote) rest).map fun (cs, after) => ('\\' :: c :: cs, after)
  | some quote, c :: rest =>
    (untilClose mark (if c = quote then none else some quote) rest).map fun (cs, after) =>
      (c :: cs, after)
  | none, c :: rest =>
    match rest with
    | '\x7d' :: after =>
      if c = mark then some ([], after)
      else (untilClose mark none rest).map fun (cs, after) => (c :: cs, after)
    | _ =>
      let quote := if mark != '#' && (c = '\x22' || c = '\x27') then some c else none
      (untilClose mark quote rest).map fun (cs, after) => (c :: cs, after)

/-- The text before the first opening mark, the kind of the mark, and what follows it. -/
def untilOpen : List Char → List Char × Option (Char × List Char)
  | [] => ([], none)
  | '\x7b' :: c :: rest =>
    if c = '\x7b' ∨ c = '%' ∨ c = '#' then ([], some (c, rest))
    else
      let (cs, found) := untilOpen (c :: rest)
      ('\x7b' :: cs, found)
  | c :: rest =>
    let (cs, found) := untilOpen rest
    (c :: cs, found)

/-- Literal text before a tag without the blanks that stand alone at the start of the tag's line. -/
def trimLine (lineStart : Bool) (cs : List Char) : List Char :=
  let isSpace := fun c => c == ' ' || c == '\t'
  let kept := (cs.reverse.dropWhile isSpace).reverse
  match kept.getLast? with
  | none => if lineStart then [] else cs
  | some c => if c = '\n' then kept else cs

/-- What follows a tag, without a line break right after it. -/
def dropBreak : List Char → List Char
  | '\n' :: rest => rest
  | cs => cs

/-- Cuts a template into pieces. The flag says whether the text begins at the start of a line. -/
def cut : Nat → Bool → List Char → Except Fault (List Piece)
  | 0, _, _ => .ok []
  | fuel + 1, lineStart, cs =>
    match untilOpen cs with
    | (text, none) => .ok [.text text]
    | (text, some (kind, rest)) =>
      if kind = '\x7b' then
        match untilClose '\x7d' none rest with
        | none => do
          let _ ← words rest.length rest
          .error (formFault "unexpected end of template, expected 'end of print statement'.")
        | some (body, after) => do
          let ws ← words body.length body
          return .text text :: .print ws :: (← cut fuel false after)
      else
        let before := trimLine lineStart text
        match untilClose kind none rest with
        | none =>
          .error (formFault <| if kind = '#' then "Missing end of comment tag"
            else "unexpected end of template, expected 'end of statement block'.")
        | some (body, after) => do
          let rest ← cut fuel (after.head? == some '\n') (dropBreak after)
          if kind = '#' then return .text before :: rest
          else return .text before :: .tag (← words body.length body) :: rest

/-- The names that a repetition binds, and what follows `in`. -/
def takeNames : List Word → Option (List String × List Word)
  | .name s :: .name "in" :: rest => some ([s], rest)
  | .name s :: .symbol "," :: rest => (takeNames rest).map fun (names, ws) => (s :: names, ws)
  | _ => none

private def unfinished (block : String) (ends : List String) : Fault :=
  let looked := " or ".intercalate (ends.map quoted)
  formFault (s!"Unexpected end of template. Jinja was looking for the following tags: {looked}. " ++
    s!"The innermost block that needs to be closed is {quoted block}.")

mutual

/-- Nodes up to a tag that ends or divides a block; that tag is the first of the rest. -/
def takeNodes : Nat → List Piece → Except Fault (List Node × List Piece)
  | 0, ps => .ok ([], ps)
  | _, [] => .ok ([], [])
  | fuel + 1, .text s :: ps => do
    let (nodes, ps) ← takeNodes fuel ps
    return (if s.isEmpty then nodes else .text (String.ofList s) :: nodes, ps)
  | fuel + 1, .print ws :: ps => do
    let e ← exprOfWords ws
    let (nodes, ps) ← takeNodes fuel ps
    return (.print e :: nodes, ps)
  | fuel + 1, .tag (.name "if" :: ws) :: ps => do
    let (node, ps) ← takeChoice fuel ws ps
    let (nodes, ps) ← takeNodes fuel ps
    return (node :: nodes, ps)
  | fuel + 1, .tag (.name "for" :: ws) :: ps => do
    match takeNames ws with
    | none => .error (unexpected ws)
    | some (names, ws) =>
      let items ← exprOfWords ws
      let (body, ps) ← takeNodes fuel ps
      let (empty, ps) ← match ps with
        | .tag [.name "else"] :: ps => takeNodes fuel ps
        | ps => .ok ([], ps)
      match ps with
      | .tag [.name "endfor"] :: ps =>
        let (nodes, ps) ← takeNodes fuel ps
        return (.repetition names items body empty :: nodes, ps)
      | _ => .error (unfinished "for" ["endfor", "else"])
  | _, ps => .ok ([], ps)

def takeChoice : Nat → List Word → List Piece → Except Fault (Node × List Piece)
  | 0, ws, _ => .error (unexpected ws)
  | fuel + 1, ws, ps => do
    let condition ← exprOfWords ws
    let (yes, ps) ← takeNodes fuel ps
    match ps with
    | .tag [.name "endif"] :: ps => return (.choice condition yes [], ps)
    | .tag (.name "elif" :: ws) :: ps =>
      let (node, ps) ← takeChoice fuel ws ps
      return (.choice condition yes [node], ps)
    | .tag [.name "else"] :: ps =>
      let (no, ps) ← takeNodes fuel ps
      match ps with
      | .tag [.name "endif"] :: ps => return (.choice condition yes no, ps)
      | _ => .error (unfinished "if" ["endif"])
    | _ => .error (unfinished "if" ["elif", "else", "endif"])

end

def read (source : String) : Except Fault (List Node) := do
  let ps ← cut (source.length + 1) true source.toList
  let (nodes, rest) ← takeNodes (2 * ps.length + 2) ps
  match rest with
  | [] => return nodes
  | .tag (.name s :: _) :: _ => .error (formFault s!"Encountered unknown tag {quoted s}.")
  | .tag ws :: _ => .error (unexpected ws)
  | _ => return nodes

end StructForge.Template

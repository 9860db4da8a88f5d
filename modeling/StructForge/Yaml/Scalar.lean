import StructForge.Yaml.Cursor

/-! # Scalars

The texts of scalars: quoted ones with their escapes, block scalars with their chomping and folding,
and plain ones. Each reader starts at a place and answers the text and the place after it. -/

namespace StructForge.Yaml

def shortEscape? : Char → Option Char
  | '0' => some '\x00'
  | 'a' => some '\x07'
  | 'b' => some '\x08'
  | 't' => some '\t'
  | '\t' => some '\t'
  | 'n' => some '\n'
  | 'v' => some '\x0b'
  | 'f' => some '\x0c'
  | 'r' => some '\r'
  | 'e' => some '\x1b'
  | ' ' => some ' '
  | '\x22' => some '\x22'
  | '\\' => some '\\'
  | '/' => some '/'
  | 'N' => some '\u0085'
  | '_' => some '\u00a0'
  | 'L' => some '\u2028'
  | 'P' => some '\u2029'
  | _ => none

def escapeWidth? : Char → Option Nat
  | 'x' => some 2
  | 'u' => some 4
  | 'U' => some 8
  | _ => none

def charOfCode (code : Nat) : Except DocFault Char :=
  if code < 0x110000 then .ok (Char.ofNat code)
  else if code < 0x80000000 then .error (.value .badValue "chr() arg not in range(0x110000)")
  else .error (.value .overflow "Python int too large to convert to C int")

/-- Line breaks and the blanks around them, in a quoted scalar. -/
def quotedBreaks : Nat → Cursor → Except DocFault (List Char × Cursor)
  | 0, c => .ok ([], c)
  | fuel + 1, c =>
    if c.isDocumentMark then .error (.malformed "found unexpected document separator")
    else
      let c := c.skipWhile fun x => x == ' ' || x == '\t'
      match c.lineBreak with
      | some (b, c) => do
        let (bs, c) ← quotedBreaks fuel c
        return (b :: bs, c)
      | none => .ok ([], c)

/-- A stretch of a quoted scalar without unescaped blanks. -/
def quotedWord (double : Bool) : Nat → Cursor → Except DocFault (List Char × Cursor)
  | 0, c => .ok ([], c)
  | fuel + 1, c =>
    let x := c.here
    if isGap x then .ok ([], c)
    else if !double && x == '\x27' && c.peek 1 == '\x27' then do
      let (cs, c) ← quotedWord double fuel (c.skip 2)
      return ('\x27' :: cs, c)
    else if x == (if double then '\x22' else '\x27') then .ok ([], c)
    else if double && x == '\\' then
      let c := c.next
      let x := c.here
      match shortEscape? x, escapeWidth? x with
      | some y, _ => do
        let (cs, c) ← quotedWord double fuel c.next
        return (y :: cs, c)
      | none, some width => do
        let c := c.next
        let digits := (List.range width).map c.peek
        match digits.mapM Text.hexValue? with
        | none => .error (.malformed "expected escape sequence of hexadecimal numbers")
        | some values =>
          let y ← charOfCode (values.foldl (fun n d => 16 * n + d) 0)
          let (cs, c) ← quotedWord double fuel (c.skip width)
          return (y :: cs, c)
      | none, none =>
        match c.lineBreak with
        | some (_, c) => do
          let (bs, c) ← quotedBreaks c.fuel c
          let (cs, c) ← quotedWord double fuel c
          return (bs ++ cs, c)
        | none => .error (.malformed "found unknown escape character")
    else do
      let (cs, c) ← quotedWord double fuel c.next
      return (x :: cs, c)

/-- The blanks of a quoted scalar: on one line they are kept, and a single line break becomes a
blank. -/
def quotedBlanks (c : Cursor) : Except DocFault (List Char × Cursor) := do
  let (blanks, c) := c.span fun x => x == ' ' || x == '\t'
  if c.rest.isEmpty then throw (.malformed "found unexpected end of stream")
  match c.lineBreak with
  | none => return (blanks, c)
  | some (b, c) =>
    let (bs, c) ← quotedBreaks c.fuel c
    return (if b != '\n' then b :: bs else if bs.isEmpty then [' '] else bs, c)

def quotedRest (double : Bool) : Nat → Cursor → Except DocFault (List Char × Cursor)
  | 0, _ => .error (.malformed "found unexpected end of stream")
  | fuel + 1, c =>
    if c.here == (if double then '\x22' else '\x27') then .ok ([], c.next)
    else do
      let (blanks, c) ← quotedBlanks c
      let (word, c) ← quotedWord double c.fuel c
      let (cs, c) ← quotedRest double fuel c
      return (blanks ++ word ++ cs, c)

def quotedScalar (double : Bool) (c : Cursor) : Except DocFault (String × Cursor) := do
  let c := c.next
  let (word, c) ← quotedWord double c.fuel c
  let (cs, c) ← quotedRest double c.fuel c
  return (String.ofList (word ++ cs), c)

/-- What happens to the line breaks at the end of a block scalar. -/
inductive Chomping where
  | clip
  | strip
  | keep
  deriving DecidableEq, Repr

def chompingOf? : Char → Option Chomping
  | '+' => some .keep
  | '-' => some .strip
  | _ => none

def indentOf? (c : Char) : Except DocFault (Option Nat) :=
  if Text.isAsciiDigit c then
    if c = '0' then .error (.malformed "expected indentation indicator in the range 1-9")
    else .ok (some (c.toNat - 0x30))
  else .ok none

/-- The marks after the sign of a block scalar, in either order. -/
def blockHeader (c : Cursor) : Except DocFault ((Chomping × Option Nat) × Cursor) := do
  let (result, c) ← match chompingOf? c.here with
    | some chomping =>
      let c := c.next
      match ← indentOf? c.here with
      | some n => pure ((chomping, some n), c.next)
      | none => pure ((chomping, none), c)
    | none =>
      match ← indentOf? c.here with
      | some n =>
        let c := c.next
        match chompingOf? c.here with
        | some chomping => pure ((chomping, some n), c.next)
        | none => pure ((.clip, some n), c)
      | none => pure ((.clip, none), c)
  if endsWord c.here then return (result, c)
  else throw (.malformed "expected chomping or indentation indicators")

def blockIndentation : Nat → Nat → Cursor → List Char × Nat × Cursor
  | 0, widest, c => ([], widest, c)
  | fuel + 1, widest, c =>
    if c.here == ' ' then blockIndentation fuel (max widest c.next.column) c.next
    else match c.lineBreak with
      | some (b, c) =>
        let (bs, widest, c) := blockIndentation fuel widest c
        (b :: bs, widest, c)
      | none => ([], widest, c)

def skipIndent (indent : Nat) (c : Cursor) : Cursor :=
  c.skip (c.rest.take (indent - c.column) |>.takeWhile (· == ' ')).length

/-- The blank lines between two lines of a block scalar. -/
def blockBreaks (indent : Nat) : Nat → Cursor → List Char × Cursor
  | 0, c => ([], c)
  | fuel + 1, c =>
    let c := skipIndent indent c
    match c.lineBreak with
    | some (b, c) =>
      let (bs, c) := blockBreaks indent fuel c
      (b :: bs, c)
    | none => ([], c)

/-- The lines of a block scalar, after the blank lines before them. The answer holds the text, the
last line break and the blank lines after it. -/
def blockLines (folded : Bool) (indent : Nat) :
    Nat → List Char → Cursor → List Char × List Char × List Char × Cursor
  | 0, breaks, c => ([], [], breaks, c)
  | fuel + 1, breaks, c =>
    if c.column == indent && !c.rest.isEmpty then
      let startsPlain := c.here != ' ' && c.here != '\t'
      let (line, c) := c.span (!endsLine ·)
      let (lineBreak, c) := match c.lineBreak with
        | some (b, c) => ([b], c)
        | none => ([], c)
      let (after, c) := blockBreaks indent c.fuel c
      if c.column == indent && !c.rest.isEmpty then
        let joint :=
          if folded && lineBreak == ['\n'] && startsPlain && c.here != ' ' && c.here != '\t' then
            if after.isEmpty then [' '] else []
          else lineBreak
        let (more, last, tail, c) := blockLines folded indent fuel after c
        (breaks ++ line ++ joint ++ more, last, tail, c)
      else (breaks ++ line, lineBreak, after, c)
    else ([], [], breaks, c)

/-- A block scalar, from its sign, inside a block of the given indentation. -/
def blockScalar (folded : Bool) (outer : Int) (c : Cursor) : Except DocFault (String × Cursor) := do
  let ((chomping, increment), c) ← blockHeader c.next
  let c ← c.endLine
  let least := max (outer + 1) 1 |>.toNat
  let (indent, breaks, c) := match increment with
    | some n =>
      let (breaks, c) := blockBreaks (least + n - 1) c.fuel c
      (least + n - 1, breaks, c)
    | none =>
      let (breaks, widest, c) := blockIndentation c.fuel 0 c
      (max least widest, breaks, c)
  let (text, last, tail, c) := blockLines folded indent c.fuel breaks c
  let ending := match chomping with
    | .strip => []
    | .clip => last
    | .keep => last ++ tail
  return (String.ofList (text ++ ending), c)

def endsPlain (inFlow : Bool) (x following : Char) : Bool :=
  isGap x ||
    (x == ':' && (isGap following ||
      (inFlow && [',', '[', ']', '\x7b', '\x7d'].contains following))) ||
    (inFlow && [',', '?', '[', ']', '\x7b', '\x7d'].contains x)

def plainLength (inFlow : Bool) : List Char → Nat
  | [] => 0
  | x :: rest =>
    if endsPlain inFlow x (rest.head?.getD '\x00') then 0 else plainLength inFlow rest + 1

/-- The breaks after the first one between two stretches of a plain scalar; none if a mark between
documents follows. -/
def plainBreaks : Nat → Cursor → Option (List Char) × Cursor
  | 0, c => (some [], c)
  | fuel + 1, c =>
    let c := c.skipWhile (· == ' ')
    match c.lineBreak with
    | some (b, c) =>
      if c.isDocumentMark then (none, c)
      else
        let (bs, c) := plainBreaks fuel c
        (bs.map (b :: ·), c)
    | none => (some [], c)

/-- The blanks after a stretch of a plain scalar, as they are kept, whether a line was broken, and
the place after them. Without blanks, or before a mark between documents, the scalar has ended. -/
def plainBlanks (c : Cursor) : List Char × Bool × Cursor :=
  let (blanks, c) := c.span (· == ' ')
  match c.lineBreak with
  | none => (blanks, false, c)
  | some (b, c) =>
    if c.isDocumentMark then ([], true, c)
    else
      match plainBreaks c.fuel c with
      | (none, c) => ([], true, c)
      | (some bs, c) =>
        (if b != '\n' then b :: bs else if bs.isEmpty then [' '] else bs, true, c)

/-- A plain scalar in a block of the given indentation. The flag tells whether its last blanks broke
a line, after which a key may follow. -/
def plainScalar (inFlow : Bool) (outer : Int) :
    Nat → List Char → Bool → Cursor → List Char × Bool × Cursor
  | 0, _, broke, c => ([], broke, c)
  | fuel + 1, blanks, broke, c =>
    if c.here == '#' then ([], broke, c)
    else
      let n := plainLength inFlow c.rest
      if n = 0 then ([], broke, c)
      else
        let word := c.rest.take n
        let (after, broke, c) := plainBlanks (c.skip n)
        if after.isEmpty || c.here == '#' || (!inFlow && (c.column : Int) < outer + 1) then
          (blanks ++ word, broke, c)
        else
          let (more, broke, c) := plainScalar inFlow outer fuel after broke c
          (blanks ++ word ++ more, broke, c)

end StructForge.Yaml

import StructForge.Text.Utf8
import StructForge.Yaml.Scalar

/-! # Tokens

A document is cut into tokens. Blocks are opened and closed by tokens of their own, found from the
indentation. A key is recognised only at the colon after it, so a place where one may begin is kept
in mind and its token put there later. Where the cutting fails, a last token says so. -/

namespace StructForge.Yaml

inductive Directive where
  | version (major minor : Nat)
  | handle (name expansion : String)
  | other
  deriving DecidableEq, Repr

inductive Token where
  | directive (d : Directive)
  | documentStart
  | documentEnd
  | streamEnd
  | blockSequenceStart
  | blockMappingStart
  | blockEnd
  | flowSequenceStart
  | flowSequenceEnd
  | flowMappingStart
  | flowMappingEnd
  | blockEntry
  | flowEntry
  | key
  | value
  | alias (name : String)
  | anchor (name : String)
  | tag (handle : Option String) (suffix : String)
  | scalar (plain : Bool) (text : String)
  | fault (f : DocFault)
  deriving DecidableEq, Repr

/-- A place where a key may begin: the number of tokens before it, and whether it must be one. -/
structure PendingKey where
  position : Nat
  required : Bool
  index : Nat
  line : Nat
  column : Nat
  deriving Repr

/-- The state of the cutting. Pending keys are kept by the depth of flow collections. -/
structure Cutting where
  cursor : Cursor
  tokens : Array Token := #[]
  flowDepth : Nat := 0
  indent : Int := -1
  outer : List Int := []
  keyAllowed : Bool := true
  pending : List (Nat × PendingKey) := []

abbrev Cut := StateT Cutting (Except DocFault)

namespace Cut

private def refuse {α : Type} (reason : String) : Cut α := throw (.malformed reason)

def push (t : Token) : Cut Unit := modify fun s => { s with tokens := s.tokens.push t }

def moveTo (c : Cursor) : Cut Unit := modify fun s => { s with cursor := c }

def allowKey (b : Bool) : Cut Unit := modify fun s => { s with keyAllowed := b }

/-- Forgets pending keys that are on another line or too far away. -/
def dropStale : Cut Unit := do
  let s ← get
  let isStale := fun k : PendingKey => k.line != s.cursor.line || 1024 < s.cursor.index - k.index
  if s.pending.any fun (_, k) => isStale k && k.required then refuse "could not find expected ':'"
  set { s with pending := s.pending.filter fun (_, k) => !isStale k }

/-- Forgets the pending key of the current depth. -/
def dropPending : Cut Unit := do
  let s ← get
  match s.pending.lookup s.flowDepth with
  | none => pure ()
  | some k =>
    if k.required then refuse "could not find expected ':'"
    set { s with pending := s.pending.filter (·.1 != s.flowDepth) }

/-- Keeps the current place in mind as the start of a key, if a key is allowed here. -/
def savePending : Cut Unit := do
  let s ← get
  if s.keyAllowed then
    dropPending
    let required := s.flowDepth == 0 && s.indent == s.cursor.column
    modify fun t => { t with
      pending := (s.flowDepth, ⟨s.tokens.size, required, s.cursor.index, s.cursor.line,
        s.cursor.column⟩) :: t.pending }

def closeBlocks (column : Int) : Cut Unit :=
  modify fun s =>
    if s.flowDepth != 0 then s else unwind s.outer.length s
where
  unwind : Nat → Cutting → Cutting
    | 0, s => s
    | fuel + 1, s =>
      if column < s.indent then
        unwind fuel { s with
          indent := s.outer.headD (-1), outer := s.outer.tail, tokens := s.tokens.push .blockEnd }
      else s

def openBlock (column : Nat) : Cut Bool := do
  let s ← get
  if s.indent < column then
    set { s with indent := column, outer := s.indent :: s.outer }
    return true
  else return false

/-- Goes on to the next token: past blanks, comments and line breaks. -/
def toNext : Cut Unit := do
  let s ← get
  let c := if s.cursor.index == 0 && s.cursor.here == '\uFEFF' then s.cursor.next else s.cursor
  let (c, broke) := walk c.fuel c
  set { s with cursor := c, keyAllowed := s.keyAllowed || (broke && s.flowDepth == 0) }
where
  walk : Nat → Cursor → Cursor × Bool
    | 0, c => (c, false)
    | fuel + 1, c =>
      let c := c.skipWhile (· == ' ')
      let c := if c.here == '#' then c.skipWhile (!endsLine ·) else c
      match c.lineBreak with
      | none => (c, false)
      | some (_, c) => ((walk fuel c).1, true)

/-- A name of an anchor, alias or handle. -/
def word (what : String) (c : Cursor) : Except DocFault (String × Cursor) :=
  let (cs, c) := c.span isWordChar
  if cs.isEmpty then .error (.malformed s!"expected {what}") else .ok (String.ofList cs, c)

def versionNumber (c : Cursor) : Except DocFault (Nat × Cursor) :=
  let (cs, c) := c.span Text.isAsciiDigit
  if cs.isEmpty then .error (.malformed "expected a digit") else .ok (Text.ofDigits cs, c)

def tagHandle (c : Cursor) : Except DocFault (String × Cursor) :=
  if c.here != '!' then .error (.malformed "expected '!'")
  else if c.peek 1 == ' ' then .ok ("!", c.next)
  else
    let (cs, d) := c.next.span isWordChar
    if d.here != '!' then .error (.malformed "expected '!'")
    else .ok ("!" ++ String.ofList cs ++ "!", d.next)

def isTagChar (c : Char) : Bool := isWordChar c || ";/?:@&=+$,_.!~*'()[]".toList.contains c

def escapedOctets : Nat → Cursor → Except DocFault (List UInt8 × Cursor)
  | 0, c => .ok ([], c)
  | fuel + 1, c =>
    if c.here != '%' then .ok ([], c)
    else
      match Text.hexValue? (c.peek 1), Text.hexValue? (c.peek 2) with
      | some a, some b => do
        let (octets, c) ← escapedOctets fuel (c.skip 3)
        return (UInt8.ofNat (16 * a + b) :: octets, c)
      | _, _ => .error (.malformed "expected escape sequence of 2 hexadecimal numbers")

def tagChars : Nat → Cursor → Except DocFault (List Char × Cursor)
  | 0, c => .ok ([], c)
  | fuel + 1, c =>
    if isTagChar c.here then do
      let (cs, d) ← tagChars fuel c.next
      return (c.here :: cs, d)
    else if c.here == '%' then do
      let (octets, c) ← escapedOctets c.fuel c
      match Text.Utf8.decodeFrom 0 octets with
      | .error f => .error (.malformed f.message)
      | .ok text =>
        let (cs, c) ← tagChars fuel c
        return (text ++ cs, c)
    else .ok ([], c)

def tagText (c : Cursor) : Except DocFault (String × Cursor) := do
  let (cs, c) ← tagChars c.fuel c
  if cs.isEmpty then throw (.malformed "expected a tag")
  return (String.ofList cs, c)

def directive (c : Cursor) : Except DocFault (Directive × Cursor) := do
  let (name, c) ← word "a directive name" c.next
  if !endsWord c.here then throw (.malformed "expected the end of a directive name")
  let (d, c) ←
    if name == "YAML" then do
      let (major, c) ← versionNumber (c.skipWhile (· == ' '))
      if c.here != '.' then throw (.malformed "expected a digit or '.'")
      let (minor, c) ← versionNumber c.next
      if !endsWord c.here then throw (.malformed "expected a digit or ' '")
      pure (Directive.version major minor, c)
    else if name == "TAG" then do
      let (handle, c) ← tagHandle (c.skipWhile (· == ' '))
      if c.here != ' ' then throw (.malformed "expected ' '")
      let (expansion, c) ← tagText (c.skipWhile (· == ' '))
      if !endsWord c.here then throw (.malformed "expected ' '")
      pure (Directive.handle handle expansion, c)
    else pure (Directive.other, c.skipWhile (!endsLine ·))
  return (d, ← c.endLine)

def anchorName (c : Cursor) : Except DocFault (String × Cursor) := do
  let (name, c) ← word "an anchor name" c.next
  if isGap c.here || "?:,]%@\x7d`".toList.contains c.here then return (name, c)
  throw (.malformed "expected the end of an anchor name")

/-- Whether a tag goes on with a handle: an exclamation mark comes before its end. -/
def hasHandle (c : Cursor) : Bool :=
  (c.rest.tail.takeWhile (!endsWord ·)).contains '!'

def tag (c : Cursor) : Except DocFault (Token × Cursor) := do
  let (t, c) ←
    if c.peek 1 == '<' then do
      let (suffix, c) ← tagText (c.skip 2)
      if c.here != '>' then throw (.malformed "expected '>'")
      pure (Token.tag none suffix, c.next)
    else if isGap (c.peek 1) then pure (Token.tag none "!", c.next)
    else do
      let (handle, c) ← if hasHandle c then tagHandle c else pure ("!", c.next)
      let (suffix, c) ← tagText c
      pure (Token.tag (some handle) suffix, c)
  if endsWord c.here then return (t, c)
  throw (.malformed "expected ' '")

def take (read : Cursor → Except DocFault (Token × Cursor)) : Cut Unit := do
  let s ← get
  let (t, c) ← read s.cursor
  moveTo c
  push t

def mark (t : Token) (length : Nat) : Cut Unit := take fun c => .ok (t, c.skip length)

def finish : Cut Unit := do
  closeBlocks (-1)
  dropPending
  modify fun s => { s with pending := [] }
  push .streamEnd

def documentToken (read : Cursor → Except DocFault (Token × Cursor)) : Cut Unit := do
  closeBlocks (-1)
  dropPending
  allowKey false
  take read

def flowStart (t : Token) : Cut Unit := do
  savePending
  modify fun s => { s with flowDepth := s.flowDepth + 1, keyAllowed := true }
  mark t 1

/-- The end of a flow collection. An end without a start leaves a depth that only the reader of
tokens refuses. -/
def flowEnd (t : Token) : Cut Unit := do
  dropPending
  modify fun s => { s with flowDepth := s.flowDepth - 1, keyAllowed := false }
  mark t 1

def flowEntry : Cut Unit := do
  allowKey true
  dropPending
  mark .flowEntry 1

def blockEntry : Cut Unit := do
  let s ← get
  if s.flowDepth == 0 then
    if !s.keyAllowed then refuse "sequence entries are not allowed here"
    if ← openBlock s.cursor.column then push .blockSequenceStart
  allowKey true
  dropPending
  mark .blockEntry 1

def explicitKey : Cut Unit := do
  let s ← get
  if s.flowDepth == 0 then
    if !s.keyAllowed then refuse "mapping keys are not allowed here"
    if ← openBlock s.cursor.column then push .blockMappingStart
  allowKey (s.flowDepth == 0)
  dropPending
  mark .key 1

/-- The mark of a value. The pending key of the current depth becomes a key. -/
def valueMark : Cut Unit := do
  let s ← get
  match s.pending.lookup s.flowDepth with
  | some k =>
    modify fun s => { s with
      pending := s.pending.filter (·.1 != s.flowDepth)
      tokens := s.tokens.insertIdxIfInBounds k.position .key }
    if s.flowDepth == 0 then
      if ← openBlock k.column then
        modify fun s => { s with
          tokens := s.tokens.insertIdxIfInBounds k.position .blockMappingStart }
    allowKey false
  | none =>
    if s.flowDepth == 0 then
      if !s.keyAllowed then refuse "mapping values are not allowed here"
      if ← openBlock s.cursor.column then push .blockMappingStart
    allowKey (s.flowDepth == 0)
    dropPending
  mark .value 1

def keyToken (read : Cursor → Except DocFault (Token × Cursor)) : Cut Unit := do
  savePending
  allowKey false
  take read

def block (folded : Bool) : Cut Unit := do
  allowKey true
  dropPending
  let s ← get
  take fun c => do
    let (text, c) ← blockScalar folded s.indent c
    return (.scalar false text, c)

def plain : Cut Unit := do
  savePending
  let s ← get
  let (cs, broke, c) :=
    plainScalar (s.flowDepth != 0) s.indent s.cursor.fuel [] false s.cursor
  moveTo c
  allowKey broke
  push (.scalar true (String.ofList cs))

def startsPlain (inFlow : Bool) (c : Cursor) : Bool :=
  let x := c.here
  (!isGap x && !"-?:,[]\x7b\x7d#&*!|>'\"%@`".toList.contains x) ||
    (!isGap (c.peek 1) && (x == '-' || (!inFlow && (x == '?' || x == ':'))))

/-- Cuts off the next token; the answer tells whether the document goes on. -/
def step : Cut Bool := do
  toNext
  dropStale
  closeBlocks (← get).cursor.column
  let s ← get
  let c := s.cursor
  let inFlow := s.flowDepth != 0
  if c.rest.isEmpty then
    finish
    return false
  if c.here == '%' && c.column == 0 then
    documentToken fun c => do
      let (d, c) ← directive c
      return (.directive d, c)
  else if c.column == 0 && c.isMark '-' then documentToken fun c => .ok (.documentStart, c.skip 3)
  else if c.column == 0 && c.isMark '.' then documentToken fun c => .ok (.documentEnd, c.skip 3)
  else if c.here == '[' then flowStart .flowSequenceStart
  else if c.here == '\x7b' then flowStart .flowMappingStart
  else if c.here == ']' then flowEnd .flowSequenceEnd
  else if c.here == '\x7d' then flowEnd .flowMappingEnd
  else if c.here == ',' then flowEntry
  else if c.here == '-' && isGap (c.peek 1) then blockEntry
  else if c.here == '?' && (inFlow || isGap (c.peek 1)) then explicitKey
  else if c.here == ':' && (inFlow || isGap (c.peek 1)) then valueMark
  else if c.here == '*' then keyToken fun c => do
    let (name, c) ← anchorName c
    return (.alias name, c)
  else if c.here == '&' then keyToken fun c => do
    let (name, c) ← anchorName c
    return (.anchor name, c)
  else if c.here == '!' then keyToken tag
  else if c.here == '|' && !inFlow then block false
  else if c.here == '>' && !inFlow then block true
  else if c.here == '\x27' then keyToken fun c => do
    let (text, c) ← quotedScalar false c
    return (.scalar false text, c)
  else if c.here == '\x22' then keyToken fun c => do
    let (text, c) ← quotedScalar true c
    return (.scalar false text, c)
  else if startsPlain inFlow c then plain
  else refuse "found character that cannot start any token"
  return true

/-- Cuts off tokens to the end. Each step but the last takes a character, so their number bounds the
fuel. -/
def all : Nat → Cutting → Array Token
  | 0, s => s.tokens
  | fuel + 1, s =>
    match step.run s with
    | .error f => s.tokens.push (.fault f)
    | .ok (true, s) => all fuel s
    | .ok (false, s) => s.tokens

end Cut

def tokens (text : String) : List Token :=
  let c := Cursor.start text.toList
  if c.rest.all isAllowed then (Cut.all (c.fuel + 1) { cursor := c }).toList
  else [.fault (.malformed "special characters are not allowed")]

end StructForge.Yaml

import StructForge.Yaml.Resolve
import StructForge.Yaml.Token

/-! # Nodes

The tokens of a document form a tree of scalars, sequences and mappings, each with its tag. An alias
stands for the node of its anchor. Inside that node itself the alias is unfolded to a fixed
depth. -/

namespace StructForge.Yaml

inductive Node where
  | scalar (tag text : String)
  | sequence (tag : String) (items : List Node)
  | mapping (tag : String) (entries : List (Node × Node))
  | enclosing (anchor : String)
  deriving Repr

instance : Inhabited Node := ⟨.scalar "" ""⟩

namespace Node

mutual

/-- A node with a given node in the places of the aliases of an anchor around it. -/
def fill (anchor : String) (inner : Node) : Node → Node
  | .enclosing name => if name == anchor then inner else .enclosing name
  | .sequence tag items => .sequence tag (fillAll anchor inner items)
  | .mapping tag entries => .mapping tag (fillEntries anchor inner entries)
  | .scalar tag text => .scalar tag text

def fillAll (anchor : String) (inner : Node) : List Node → List Node
  | [] => []
  | n :: ns => fill anchor inner n :: fillAll anchor inner ns

def fillEntries (anchor : String) (inner : Node) : List (Node × Node) → List (Node × Node)
  | [] => []
  | (k, v) :: ns => (fill anchor inner k, fill anchor inner v) :: fillEntries anchor inner ns

end

mutual

def mentions (anchor : String) : Node → Bool
  | .enclosing name => name == anchor
  | .sequence _ items => anyMentions anchor items
  | .mapping _ entries => entriesMention anchor entries
  | .scalar .. => false

def anyMentions (anchor : String) : List Node → Bool
  | [] => false
  | n :: ns => mentions anchor n || anyMentions anchor ns

def entriesMention (anchor : String) : List (Node × Node) → Bool
  | [] => false
  | (k, v) :: ns => mentions anchor k || mentions anchor v || entriesMention anchor ns

end

/-- A node unfolded a number of times in the places of its own alias. -/
def unfoldSelf (anchor : String) (n : Node) : Nat → Node
  | 0 => n
  | depth + 1 => fill anchor (unfoldSelf anchor n depth) n

end Node

def unfoldDepth : Nat := 3

/-- The state of reading nodes: the tokens left, the anchors met so far and the handles of tags. -/
structure Reading where
  tokens : List Token
  anchors : List (String × Node) := []
  handles : List (String × String) := []

abbrev Read := StateT Reading (Except DocFault)

namespace Read

private def refuse {α : Type} (reason : String) : Read α := throw (.malformed reason)

/-- The next token. Where the cutting failed, reading fails in the same way. -/
def peek : Read Token := do
  match (← get).tokens with
  | .fault f :: _ => throw f
  | t :: _ => return t
  | [] => return .streamEnd

def drop : Read Unit := modify fun s => { s with tokens := s.tokens.tail }

def absent : Node := .scalar (coreTag ++ Kind.null.name) ""

def expandTag (handle : Option String) (suffix : String) : Read String := do
  match handle with
  | none => return suffix
  | some handle =>
    match (← get).handles.lookup handle with
    | some expansion => return expansion ++ suffix
    | none => refuse "found undefined tag handle"

/-- The anchor and tag before a node, in either order. -/
def properties : Read (Option String × Option String) := do
  match ← peek with
  | .anchor name =>
    drop
    match ← peek with
    | .tag handle suffix =>
      drop
      return (some name, some (← expandTag handle suffix))
    | _ => return (some name, none)
  | .tag handle suffix =>
    drop
    match ← peek with
    | .anchor name =>
      drop
      return (some name, some (← expandTag handle suffix))
    | _ => return (none, some (← expandTag handle suffix))
  | _ => return (none, none)

/-- The tag of a node: a missing one, or a bare mark, is settled by the node itself. -/
def settle (tag : Option String) (otherwise : Kind) : String :=
  match tag with
  | some tag => if tag == "!" then coreTag ++ otherwise.name else tag
  | none => coreTag ++ otherwise.name

def scalarNode (tag : Option String) (plain : Bool) (text : String) : Node :=
  let kind := if plain || tag == some "!" then plainKind text else .str
  .scalar (settle tag kind) text

/-- Keeps an anchor in mind while its node is read; no anchor may be used twice. -/
def openAnchor (anchor : Option String) : Read Unit := do
  match anchor with
  | none => return
  | some name =>
    if ((← get).anchors.lookup name).isSome then refuse "found duplicate anchor"
    modify fun s => { s with anchors := (name, .enclosing name) :: s.anchors }

def closeAnchor (anchor : Option String) (n : Node) : Read Node := do
  match anchor with
  | none => return n
  | some name =>
    let n := if n.mentions name then n.unfoldSelf name unfoldDepth else n
    modify fun s => { s with anchors := (name, n) :: s.anchors }
    return n

mutual

/-- A node. In a block, blocks may begin; at the value of a key also a sequence that is not
indented. -/
def node : Nat → Bool → Bool → Read Node
  | 0, _, _ => refuse "the document is nested too deeply"
  | fuel + 1, inBlock, unindented => do
    match ← peek with
    | .alias name =>
      drop
      match (← get).anchors.lookup name with
      | some n => return n
      | none => refuse "found undefined alias"
    | _ =>
      let (anchor, tag) ← properties
      let t ← peek
      if unindented && t == .blockEntry then
        openAnchor anchor
        let items ← unindentedItems fuel
        closeAnchor anchor (.sequence (settle tag .seq) items)
      else
        match t with
        | .scalar plain text =>
          drop
          openAnchor anchor
          closeAnchor anchor (scalarNode tag plain text)
        | .flowSequenceStart =>
          drop
          openAnchor anchor
          let items ← flowItems fuel true
          closeAnchor anchor (.sequence (settle tag .seq) items)
        | .flowMappingStart =>
          drop
          openAnchor anchor
          let entries ← flowEntries fuel true
          closeAnchor anchor (.mapping (settle tag .map) entries)
        | .blockSequenceStart =>
          if !inBlock then refuse "expected the node content"
          drop
          openAnchor anchor
          let items ← blockItems fuel
          closeAnchor anchor (.sequence (settle tag .seq) items)
        | .blockMappingStart =>
          if !inBlock then refuse "expected the node content"
          drop
          openAnchor anchor
          let entries ← blockEntries fuel
          closeAnchor anchor (.mapping (settle tag .map) entries)
        | _ =>
          if anchor.isSome || tag.isSome then
            openAnchor anchor
            closeAnchor anchor (.scalar (settle tag .null) "")
          else refuse "expected the node content"

def nodeUnless : Nat → (Token → Bool) → Bool → Bool → Read Node
  | 0, _, _, _ => refuse "the document is nested too deeply"
  | fuel + 1, stops, inBlock, unindented => do
    if stops (← peek) then return absent else node fuel inBlock unindented

def blockItems : Nat → Read (List Node)
  | 0 => refuse "the document is nested too deeply"
  | fuel + 1 => do
    match ← peek with
    | .blockEntry =>
      drop
      let item ← nodeUnless fuel (fun t => t == .blockEntry || t == .blockEnd) true false
      return item :: (← blockItems fuel)
    | .blockEnd =>
      drop
      return []
    | _ => refuse "expected <block end>"

def unindentedItems : Nat → Read (List Node)
  | 0 => refuse "the document is nested too deeply"
  | fuel + 1 => do
    match ← peek with
    | .blockEntry =>
      drop
      let stops := fun t : Token =>
        t == .blockEntry || t == .key || t == .value || t == .blockEnd
      let item ← nodeUnless fuel stops true false
      return item :: (← unindentedItems fuel)
    | _ => return []

def blockEntries : Nat → Read (List (Node × Node))
  | 0 => refuse "the document is nested too deeply"
  | fuel + 1 => do
    let stops := fun t : Token => t == .key || t == .value || t == .blockEnd
    match ← peek with
    | .key =>
      drop
      let key ← nodeUnless fuel stops true true
      let value ← blockValue fuel
      return (key, value) :: (← blockEntries fuel)
    | .blockEnd =>
      drop
      return []
    | _ => refuse "expected <block end>"

def blockValue : Nat → Read Node
  | 0 => refuse "the document is nested too deeply"
  | fuel + 1 => do
    match ← peek with
    | .value =>
      drop
      nodeUnless fuel (fun t => t == .key || t == .value || t == .blockEnd) true true
    | _ => return absent

def flowItems : Nat → Bool → Read (List Node)
  | 0, _ => refuse "the document is nested too deeply"
  | fuel + 1, first => do
    if (← peek) == .flowSequenceEnd then
      drop
      return []
    if !first then
      if (← peek) == .flowEntry then drop else refuse "expected ',' or ']'"
    match ← peek with
    | .key =>
      drop
      let stops := fun t : Token => t == .value || t == .flowEntry || t == .flowSequenceEnd
      let key ← nodeUnless fuel stops false false
      let value ← flowValue fuel .flowSequenceEnd
      let item := Node.mapping (coreTag ++ Kind.map.name) [(key, value)]
      return item :: (← flowItems fuel false)
    | .flowSequenceEnd =>
      drop
      return []
    | _ =>
      let item ← node fuel false false
      return item :: (← flowItems fuel false)

def flowValue : Nat → Token → Read Node
  | 0, _ => refuse "the document is nested too deeply"
  | fuel + 1, close => do
    match ← peek with
    | .value =>
      drop
      nodeUnless fuel (fun t => t == .flowEntry || t == close) false false
    | _ => return absent

def flowEntries : Nat → Bool → Read (List (Node × Node))
  | 0, _ => refuse "the document is nested too deeply"
  | fuel + 1, first => do
    if (← peek) == .flowMappingEnd then
      drop
      return []
    if !first then
      if (← peek) == .flowEntry then drop else refuse "expected ',' or a closing brace"
    match ← peek with
    | .key =>
      drop
      let stops := fun t : Token => t == .value || t == .flowEntry || t == .flowMappingEnd
      let key ← nodeUnless fuel stops false false
      let value ← flowValue fuel .flowMappingEnd
      return (key, value) :: (← flowEntries fuel false)
    | .flowMappingEnd =>
      drop
      return []
    | _ =>
      let key ← node fuel false false
      return (key, absent) :: (← flowEntries fuel false)

end

def commonHandles : List (String × String) := [("!", "!"), ("!!", coreTag)]

def directives : Nat → Bool → List (String × String) → Read (List (String × String))
  | 0, _, handles => return handles
  | fuel + 1, hasVersion, handles => do
    match ← peek with
    | .directive d =>
      drop
      match d with
      | .version major _ =>
        if hasVersion then refuse "found duplicate version directive"
        if major != 1 then refuse "found incompatible document"
        directives fuel true handles
      | .handle name expansion =>
        if (handles.lookup name).isSome then refuse "duplicate tag handle"
        directives fuel hasVersion ((name, expansion) :: handles)
      | .other => directives fuel hasVersion handles
    | _ => return handles

def dropEnds : Nat → Read Unit
  | 0 => return
  | fuel + 1 => do
    if (← peek) == .documentEnd then
      drop
      dropEnds fuel

def isBoundary : Token → Bool
  | .directive _ | .documentStart | .documentEnd | .streamEnd => true
  | _ => false

/-- The content of a document, its end mark included. -/
def content (fuel : Nat) : Read Node := do
  let n ← node fuel true false
  if (← peek) == .documentEnd then drop
  return n

def document (fuel : Nat) : Read (Option Node) := do
  let t ← peek
  let found ←
    if isBoundary t && t != .documentEnd then openDocument
    else
      modify fun s => { s with handles := commonHandles }
      pure (some (← content fuel))
  if found.isSome then
    dropEnds fuel
    if (← peek) != .streamEnd then refuse "expected a single document in the stream"
  return found
where
  openDocument : Read (Option Node) := do
    dropEnds fuel
    if (← peek) == .streamEnd then return none
    let handles ← directives fuel false []
    modify fun s => { s with handles := handles ++ commonHandles }
    if (← peek) != .documentStart then refuse "expected '<document start>'"
    drop
    if isBoundary (← peek) then
      if (← peek) == .documentEnd then drop
      return some absent
    return some (← content fuel)

end Read

/-- The node of the only document in a text, none if there is no document. -/
def Node.ofText (text : String) : Except DocFault (Option Node) := do
  let ts := tokens text
  let (n, _) ← (Read.document (4 * ts.length + 8)).run { tokens := ts }
  return n

end StructForge.Yaml

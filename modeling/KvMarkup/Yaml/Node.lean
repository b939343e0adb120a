import KvMarkup.Yaml.Form
import KvMarkup.Yaml.Token

/-!
# YAML documents

A document is a graph of nodes: scalars, sequences of nodes and mappings between nodes.  A node is
known by its number, and an alias is the number of the node whose anchor it names, so a node can
stand in several places and also inside itself.

The tokens of a text make a document.  A missing scalar is empty, a sequence that is the value of a
key need not be indented, and `[a: b]` holds a mapping with one entry.  Sequences and mappings may
be nested `maxDepth` levels deep.
-/

namespace KvMarkup.Yaml

/-- The number of a node. -/
abbrev Ref := Nat

/-- What a node holds. -/
inductive Content where
  | scalar (text : List Char)
  | sequence (items : List Ref)
  | mapping (entries : List (Ref × Ref))
deriving Inhabited

structure Node where
  tag : Tag
  content : Content

instance : Inhabited Node := ⟨⟨.null, .scalar []⟩⟩

/-- The nodes of a document by their numbers. -/
abbrev Graph := Array Node

def Graph.node (g : Graph) (r : Ref) : Node := g.getD r default

/-- Handles of tags with what they stand for. -/
abbrev Handles := List (List Char × List Char)

/-- The number of levels to which sequences and mappings may be nested. -/
def maxDepth : Nat := 490

/-- What is known while a document is read. -/
structure Progress where
  lexer : Lexer
  /-- More steps than the text has tokens. -/
  limit : Nat
  graph : Graph
  anchors : List (List Char × Ref)
  /-- The number of sequences and mappings around the present place. -/
  depth : Nat

/-- Reads a part of a document. -/
abbrev Reader := StateT Progress (Except Error)

namespace Reader

/-! ## Tokens -/

/-- The next token; `none` at the end of the text. -/
def next? : Reader (Option Token) := do
  let p ← get
  let l ← p.lexer.ready p.limit
  set { p with lexer := l }
  return l.queue.head?

def skip : Reader Unit := modify fun p => { p with lexer := p.lexer.drop }

/-- Whether the next token is one of some. -/
def sees (ts : List Token) : Reader Bool := do
  return (← next?).any ts.contains

/-- Past the next token, which has to be the one given. -/
def expect (t : Token) : Reader Unit := do
  if ← sees [t] then skip else throw .order

def anchor? : Reader (Option (List Char)) := do
  match ← next? with
  | some (.anchor name) => skip; return some name
  | _ => return none

def tag? : Reader (Option (Option (List Char) × List Char)) := do
  match ← next? with
  | some (.tag handle rest) => skip; return some (handle, rest)
  | _ => return none

/-- A tag written out with the handles known. -/
def writtenOut (handles : Handles) (tag : Option (List Char) × List Char) :
    Reader (List Char) := do
  match tag with
  | (none, rest) => return rest
  | (some handle, rest) =>
    match handles.lookup handle with
    | some head => return head ++ rest
    | none => throw .order

/-! ## Nodes -/

/-- Adds a node to the document, under a name if it has one. -/
def add (name : Option (List Char)) (n : Node) : Reader Ref := do
  let p ← get
  let r := p.graph.size
  set { p with
    graph := p.graph.push n
    anchors := (name.map fun a => (a, r)).toList ++ p.anchors }
  return r

/-- Gives a node its parts. -/
def fill (r : Ref) (c : Content) : Reader Unit :=
  modify fun p => { p with graph := p.graph.modify r fun n => { n with content := c } }

/-- Adds a sequence or mapping and then reads its parts, one level further in. -/
def enclose (name : Option (List Char)) (n : Node) (parts : Reader Content) : Reader Ref := do
  let r ← add name n
  let depth := (← get).depth
  if depth ≥ maxDepth then throw (.misfit .tooDeep)
  modify fun p => { p with depth := depth + 1 }
  fill r (← parts)
  modify fun p => { p with depth := depth }
  return r

/-- Adds a scalar that is left out. -/
def missing : Reader Ref := add none ⟨.null, .scalar []⟩

/-- The node that an alias stands for. -/
def aliased (name : List Char) : Reader Ref := do
  match (← get).anchors.lookup name with
  | some r => return r
  | none => throw .anchor

/-- What stands in front of a node. -/
structure Properties where
  anchor : Option (List Char)
  tag : Option (List Char)

/-- A node with an anchor or tag may be empty. -/
def Properties.isAny (p : Properties) : Bool := p.anchor.isSome || p.tag.isSome

/-- The tag of a node; a lone `!` leaves it to the form of the node, as does no tag at all. -/
def Properties.tagOr (p : Properties) (usual : Tag) : Tag :=
  match p.tag with
  | none => usual
  | some text => if text == ['!'] then usual else Tag.ofText text

/-- The tag of a scalar: a quoted one is a text unless it has a tag. -/
def Properties.scalarTag (p : Properties) (isPlain : Bool) (text : List Char) : Tag :=
  p.tagOr (if isPlain || p.tag.isSome then plainTag text else .str)

/-- The anchor and the tag in front of a node, in either order. -/
def properties (handles : Handles) : Reader Properties := do
  let before ← anchor?
  let tag ← tag?
  let after ← if before.isNone && tag.isSome then anchor? else pure none
  let tag ← tag.mapM (writtenOut handles)
  return ⟨before.or after, tag⟩

/-- Refuses an anchor that was given before. -/
def checkAnchor (p : Properties) : Reader Unit := do
  let known := (← get).anchors
  if p.anchor.any fun name => (known.lookup name).isSome then throw .anchor

mutual

/-- A node; `inBlock` tells whether block collections may begin here, `inMapping` whether a sequence
may begin without being indented. -/
def node (handles : Handles) (inBlock inMapping : Bool) : Nat → Reader Ref
  | 0 => throw .order
  | fuel + 1 => do
    match ← next? with
    | some (.alias name) => skip; aliased name
    | _ =>
      let p ← properties handles
      let token ← next?
      checkAnchor p
      content handles inBlock inMapping p token fuel

/-- A node behind its anchor and tag, which begins with the token given. -/
def content (handles : Handles) (inBlock inMapping : Bool) (p : Properties)
    (token : Option Token) : Nat → Reader Ref
  | 0 => throw .order
  | fuel + 1 => do
    let sequence (items : Reader (List Ref)) : Reader Ref :=
      enclose p.anchor ⟨p.tagOr .seq, .sequence []⟩ (.sequence <$> items)
    let mapping (entries : Reader (List (Ref × Ref))) : Reader Ref :=
      enclose p.anchor ⟨p.tagOr .map, .mapping []⟩ (.mapping <$> entries)
    let empty : Reader Ref :=
      if p.isAny then add p.anchor ⟨p.tagOr .null, .scalar []⟩ else throw .order
    match token with
    | some .blockEntry => if inMapping then sequence (looseItems handles fuel) else empty
    | some (.scalar isPlain text) =>
      skip
      add p.anchor ⟨p.scalarTag isPlain text, .scalar text⟩
    | some .flowSequenceStart => skip; sequence (flowItems handles true fuel)
    | some .flowMappingStart => skip; mapping (flowEntries handles true fuel)
    | some .blockSequenceStart =>
      if inBlock then skip; sequence (blockItems handles fuel) else empty
    | some .blockMappingStart =>
      if inBlock then skip; mapping (blockEntries handles fuel) else empty
    | _ => empty

/-- A node, or nothing if one of the tokens follows. -/
def nodeUnless (handles : Handles) (ends : List Token) (inBlock inMapping : Bool) :
    Nat → Reader Ref
  | 0 => throw .order
  | fuel + 1 => do
    if ← sees ends then missing else node handles inBlock inMapping fuel

def blockItems (handles : Handles) : Nat → Reader (List Ref)
  | 0 => throw .order
  | fuel + 1 => do
    if ← sees [.blockEntry] then
      skip
      let item ← nodeUnless handles [.blockEntry, .blockEnd] true false fuel
      return item :: (← blockItems handles fuel)
    else
      expect .blockEnd
      return []

/-- The items of a sequence that is not indented. -/
def looseItems (handles : Handles) : Nat → Reader (List Ref)
  | 0 => throw .order
  | fuel + 1 => do
    if ← sees [.blockEntry] then
      skip
      let item ← nodeUnless handles [.blockEntry, .key, .value, .blockEnd] true false fuel
      return item :: (← looseItems handles fuel)
    else return []

def blockEntries (handles : Handles) : Nat → Reader (List (Ref × Ref))
  | 0 => throw .order
  | fuel + 1 => do
    if ← sees [.key] then
      skip
      let key ← nodeUnless handles [.key, .value, .blockEnd] true true fuel
      let value ←
        if ← sees [.value] then
          skip
          nodeUnless handles [.key, .value, .blockEnd] true true fuel
        else missing
      return (key, value) :: (← blockEntries handles fuel)
    else
      expect .blockEnd
      return []

def flowValue (handles : Handles) (close : Token) : Nat → Reader Ref
  | 0 => throw .order
  | fuel + 1 => do
    if ← sees [.value] then
      skip
      nodeUnless handles [.flowEntry, close] false false fuel
    else missing

/-- The items of a flow sequence up to its end. -/
def flowItems (handles : Handles) (isFirst : Bool) : Nat → Reader (List Ref)
  | 0 => throw .order
  | fuel + 1 => do
    if ← sees [.flowSequenceEnd] then
      skip
      return []
    else
      if !isFirst then expect .flowEntry
      if ← sees [.key] then
        skip
        let pair ← enclose none ⟨.map, .mapping []⟩ do
          let key ← nodeUnless handles [.value, .flowEntry, .flowSequenceEnd] false false fuel
          let value ← flowValue handles .flowSequenceEnd fuel
          return .mapping [(key, value)]
        return pair :: (← flowItems handles false fuel)
      else if ← sees [.flowSequenceEnd] then
        skip
        return []
      else
        let item ← node handles false false fuel
        return item :: (← flowItems handles false fuel)

/-- The entries of a flow mapping up to its end. -/
def flowEntries (handles : Handles) (isFirst : Bool) : Nat → Reader (List (Ref × Ref))
  | 0 => throw .order
  | fuel + 1 => do
    if ← sees [.flowMappingEnd] then
      skip
      return []
    else
      if !isFirst then expect .flowEntry
      if ← sees [.key] then
        skip
        let key ← nodeUnless handles [.value, .flowEntry, .flowMappingEnd] false false fuel
        let value ← flowValue handles .flowMappingEnd fuel
        return (key, value) :: (← flowEntries handles false fuel)
      else if ← sees [.flowMappingEnd] then
        skip
        return []
      else
        let key ← node handles false false fuel
        let value ← missing
        return (key, value) :: (← flowEntries handles false fuel)

end

/-! ## Documents -/

/-- The handles that are known without a directive. -/
def commonHandles : Handles := [(['!'], ['!']), (['!', '!'], Tag.head)]

/-- The directives in front of a document and the handles that they introduce: at most one version
may be named, which is version one, and no handle twice. -/
def directives (version : Bool) (handles : Handles) : Nat → Reader Handles
  | 0 => throw .order
  | fuel + 1 => do
    match ← next? with
    | some (.directive d) =>
      skip
      match d with
      | .version major =>
        if version || major != 1 then throw .order else directives true handles fuel
      | .handle name head =>
        if (handles.lookup name).isSome then throw .order
        else directives version ((name, head) :: handles) fuel
      | .other => directives version handles fuel
    | _ => return handles

/-- The beginning of a document that is marked as one. -/
def opening (fuel : Nat) : Reader Handles := do
  let handles ← directives false [] fuel
  expect .documentStart
  return handles ++ commonHandles

/-- A token that cannot begin the node of a document. -/
def endsDocument : Option Token → Bool
  | none => true
  | some .documentStart => true
  | some .documentEnd => true
  | some (.directive _) => true
  | some _ => false

/-- Past marks for the end of a document. -/
def skipEnds : Nat → Reader Unit
  | 0 => throw .order
  | fuel + 1 => do
    if ← sees [.documentEnd] then
      skip
      skipEnds fuel

/-- The first node of the only document, if there is one. -/
def document? (fuel : Nat) : Reader (Option Ref) := do
  match ← next? with
  | none => return none
  | some first =>
    let root ←
      if first != .documentEnd && endsDocument (some first) then do
        let handles ← opening fuel
        if endsDocument (← next?) then missing else node handles true false fuel
      else node commonHandles true false fuel
    skipEnds fuel
    if (← next?).isSome then
      discard (opening fuel)
      throw .documents
    return root

end Reader

/-- The document of a text: its nodes, and the first one if there is any. -/
def document (text : List Char) : Except Error (Graph × Option Ref) := do
  if text.all isAllowed then
    let steps := 32 * (text.length + 2)
    let (root, p) ← (Reader.document? steps).run ⟨Lexer.start text, text.length + 2, #[], [], 0⟩
    .ok (p.graph, root)
  else .error .character

end KvMarkup.Yaml

import KvMarkup.Data.SetOrder
import KvMarkup.Yaml.Merge
import KvMarkup.Yaml.Scalar

/-!
# From nodes to values

Every node of a document is built into a part once, however often it is named.  A scalar is read
when it is first met.  A sequence or mapping is put in a queue and filled when its turn comes, after
all that were met before it; so of several faults in a document the one that counts is the one that
comes first level by level.

A scalar tag on a mapping means its default value, which is the one under the key `=`.
-/

namespace KvMarkup.Yaml

/-- What a node is built into; parts of it are given by their nodes. -/
inductive Part where
  | scalar (d : Data)
  | list (items : List Ref)
  | pairs (items : List (Ref × Ref))
  | set (items : List Data)
  | map (entries : List (Data × Ref))
deriving Inhabited

/-- What is known while a document is built. -/
structure Workshop where
  graph : Graph
  parts : Array (Option Part)
  /-- What was met and is not filled yet, the last one first. -/
  waiting : List Ref
  /-- More than the number of entries to be merged. -/
  limit : Nat

/-- Builds a part of a document. -/
abbrev Builder := StateT Workshop (Except Error)

namespace Builder

def node (r : Ref) : Builder Node := do return (← get).graph.node r

/-- The part that a node was built into, if it was met. -/
def part? (r : Ref) : Builder (Option Part) := do return (← get).parts.getD r none

/-- Records what a node is built into. -/
def record (r : Ref) (p : Part) : Builder Unit :=
  modify fun w => { w with parts := w.parts.setIfInBounds r (some p) }

/-- Records that a node will be filled. -/
def await (r : Ref) (p : Part) : Builder Unit := do
  record r p
  modify fun w => { w with waiting := r :: w.waiting }

/-- The text of a scalar, or of the default value of a mapping. -/
def scalarText (g : Graph) : Nat → Ref → Except Error (List Char)
  | 0, _ => .error (.misfit .tooDeep)
  | fuel + 1, r =>
    match (g.node r).content with
    | .scalar text => .ok text
    | .sequence _ => .error .tag
    | .mapping entries =>
      match entries.find? fun e => (g.node e.1).tag == .value with
      | some e => scalarText g fuel e.2
      | none => .error .tag

def readScalar (r : Ref) : Builder Data := do
  let g := (← get).graph
  let tag := (g.node r).tag
  let text ← scalarText g (g.size + 1) r
  if tag == .timestamp && g.isMapping r then throw (.misfit .mappingAsDate)
  tag.read (r + 1) text

/-- Meets a node: reads a scalar, and lets everything else wait. -/
def visit (r : Ref) : Builder Unit := do
  if (← part? r).isNone then
    match (← node r).tag with
    | .seq => await r (.list [])
    | .pairs => await r (.pairs [])
    | .set => await r (.set [])
    | .map => await r (.map [])
    | .merge => throw .tag
    | .value => throw .tag
    | .other => throw .tag
    | _ => record r (.scalar (← readScalar r))

/-- Meets a node that has to be a key. -/
def visitKey (r : Ref) : Builder Data := do
  visit r
  match ← part? r with
  | some (.scalar d) => return d
  | _ => throw .key

/-- Meets the only entry of a mapping. -/
def visitPair (r : Ref) : Builder (Ref × Ref) := do
  match (← node r).content with
  | .mapping [(k, v)] =>
    visit k
    visit v
    return (k, v)
  | _ => throw .tag

/-- Meets the entries of a mapping, after merging; a later value replaces an earlier one of the same
key. -/
def visitEntries (r : Ref) : Builder (List (Data × Ref)) := do
  let w ← get
  let g ← w.graph.mergeFrom w.limit r []
  set { w with graph := g }
  (g.entries r).foldlM
    (fun entries e => do
      let key ← visitKey e.1
      visit e.2
      return Data.put entries key e.2)
    []

/-- Fills a sequence, set or mapping. -/
def fill (r : Ref) : Builder Unit := do
  let n ← node r
  match n.tag, n.content with
  | .seq, .sequence items =>
    items.forM visit
    record r (.list items)
  | .pairs, .sequence items => record r (.pairs (← items.mapM visitPair))
  | .set, .mapping _ => record r (.set (Data.setOrder ((← visitEntries r).map (·.1))))
  | .map, .mapping _ => record r (.map (← visitEntries r))
  | _, _ => throw .tag

/-- Fills what waits, and what was met meanwhile. -/
def fillAll : Nat → Builder Unit
  | 0 => throw .tag
  | fuel + 1 => do
    let batch := (← get).waiting.reverse
    if !batch.isEmpty then
      modify fun w => { w with waiting := [] }
      batch.forM fill
      fillAll fuel

end Builder

/-- The parts of a document, with the number of the first one. -/
structure Document where
  parts : Array Part
  root : Ref

/-- The document of which a node is the first. -/
def build (g : Graph) (root : Ref) : Except Error Document := do
  let start : Workshop := ⟨g, Array.replicate g.size none, [], g.entryCount + 1⟩
  let steps : Builder Unit := do
    Builder.visit root
    Builder.fillAll (g.size + 1)
  let (_, w) ← steps.run start
  .ok ⟨w.parts.map fun p => p.getD default, root⟩

end KvMarkup.Yaml

import KvMarkup.Yaml.Node

/-!
# Merging mappings

Under the key `<<` a mapping names other mappings: one, or a sequence of them.  Merging takes such
an entry out and puts the entries of the others in front of the mapping's own, so that the latter
win; of the mappings of a sequence earlier ones win, so the entries of later ones stand in front.
What is merged in has been merged itself.

A mapping may name itself, directly or through others.  An entry is taken out before what it names
is looked at, so the number of entries to be merged bounds the work.
-/

namespace KvMarkup.Yaml

namespace Graph

def entries (g : Graph) (r : Ref) : List (Ref × Ref) :=
  match (g.node r).content with
  | .mapping es => es
  | _ => []

/-- The graph with other entries of a mapping. -/
def setEntries (g : Graph) (r : Ref) (es : List (Ref × Ref)) : Graph :=
  g.modify r fun n => { n with content := .mapping es }

/-- The graph in which a key for a default value is an ordinary text. -/
def asText (g : Graph) (r : Ref) : Graph :=
  g.modify r fun n => if n.tag == .value then { n with tag := .str } else n

/-- The first value to be merged among some entries, and the other entries. -/
def takeMerge? (g : Graph) : List (Ref × Ref) → Option (Ref × List (Ref × Ref))
  | [] => none
  | (k, v) :: rest =>
    if (g.node k).tag == .merge then some (v, rest)
    else (g.takeMerge? rest).map fun found => (found.1, (k, v) :: found.2)

def isMapping (g : Graph) (r : Ref) : Bool :=
  match (g.node r).content with
  | .mapping _ => true
  | _ => false

/-- Merges into a mapping what its entries name, after the entries merged already. -/
def mergeFrom : Nat → Ref → List (Ref × Ref) → Graph → Except Error Graph
  | 0, _, _, _ => .error .merge
  | fuel + 1, r, merged, g =>
    match g.takeMerge? (g.entries r) with
    | none =>
      let all := merged ++ g.entries r
      .ok (all.foldl (fun g e => g.asText e.1) (g.setEntries r all))
    | some (v, rest) => do
      let g := g.setEntries r rest
      match (g.node v).content with
      | .scalar _ => .error .merge
      | .mapping _ =>
        let g ← mergeFrom fuel v [] g
        mergeFrom fuel r (merged ++ g.entries v) g
      | .sequence items =>
        let (g, groups) ← items.foldlM
          (fun (acc : Graph × List (List (Ref × Ref))) i => do
            if acc.1.isMapping i then
              let g ← mergeFrom fuel i [] acc.1
              return (g, g.entries i :: acc.2)
            else throw .merge)
          (g, [])
        mergeFrom fuel r (merged ++ groups.flatten) g

def entryCount (g : Graph) : Nat :=
  g.foldl (fun n node =>
    match node.content with
    | .mapping es => n + es.length
    | _ => n) 0

end Graph

end KvMarkup.Yaml

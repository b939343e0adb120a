import KvMarkup.Yaml.Build

/-!
# Loading YAML

A text is read as a graph of nodes, and the nodes are built into the parts of a document.
`Document.value` takes a part for the data that it holds.  Where a sequence or mapping stands inside
itself the data says so and goes no deeper.
-/

namespace KvMarkup.Yaml

namespace Document

def part (d : Document) (r : Ref) : Part := d.parts.getD r default

/-- The data of a part inside the sequences and mappings on a path. -/
def valueIn (d : Document) : Nat → List Ref → Ref → Data
  | 0, _, _ => .null
  | fuel + 1, path, r =>
    match d.part r with
    | .scalar v => v
    | .set items => .set items
    | .list items =>
      if path.contains r then .again false
      else .list (items.map (valueIn d fuel (r :: path)))
    | .pairs items =>
      if path.contains r then .again false
      else .list (items.map fun p =>
        .tuple [valueIn d fuel (r :: path) p.1, valueIn d fuel (r :: path) p.2])
    | .map entries =>
      if path.contains r then .again true
      else .map (entries.map fun e => (e.1, valueIn d fuel (r :: path) e.2))

/-- The data of a part. -/
def value (d : Document) (r : Ref) : Data := d.valueIn (d.parts.size + 1) [] r

/-- The data of a part, of which the values of a mapping are given by a function. -/
def valueWith (d : Document) (r : Ref) (f : Data → Ref → Data) : Data :=
  match d.part r with
  | .map entries => .map (entries.map fun e => (e.1, f e.1 e.2))
  | _ => d.value r

/-- The data of a part, with mappings on the given number of levels taken by themselves: what is
below them may name them again. -/
def valueBelow (d : Document) : Nat → Ref → Data
  | 0, r => d.value r
  | n + 1, r => d.valueWith r fun _ r => d.valueBelow n r

end Document

/-- The document of a text; a text without one holds nothing. -/
def load (text : List Char) : Except Error Document := do
  match ← document text with
  | (_, none) => .ok ⟨#[.scalar .null], 0⟩
  | (g, some root) => build g root

end KvMarkup.Yaml

import KvMarkup.Data.Basic
import KvMarkup.Outline.Node

/-!
# The outline on the wire

A host receives a node as a mapping with the keys `name`, `kind`, `range`, `selectionRange`, then
`detail` unless it is absent and `children` unless there are none.
-/

namespace KvMarkup.Outline

/-- What can be sent to a host. -/
class ToData (α : Type) where
  toData : α → Data

instance : ToData String := ⟨.str⟩

instance : ToData Int := ⟨.int⟩

instance : ToData Data := ⟨id⟩

/-- A mapping with text keys. -/
def record (fields : List (String × Data)) : Data := .map (fields.map fun f => (.str f.1, f.2))

def Span.wire [ToData ℓ] (s : Span ℓ) : Data :=
  record
    [("startLineNumber", ToData.toData s.start.line), ("startColumn", .int s.start.column),
     ("endLineNumber", ToData.toData s.stop.line), ("endColumn", .int s.stop.column)]

mutual
def Node.wire [ToData ν] [ToData ℓ] : Node ν ℓ → Data
  | ⟨name, kind, range, selection, detail, children⟩ =>
    record
      ([("name", ToData.toData name), ("kind", .int kind.code), ("range", range.wire),
        ("selectionRange", selection.wire)] ++
        (detail.map fun d => ("detail", Data.str d)).toList ++
        (if children.isEmpty then [] else [("children", .list (Node.wireAll children))]))
termination_by structural n => n

def Node.wireAll [ToData ν] [ToData ℓ] : List (Node ν ℓ) → List Data
  | [] => []
  | n :: ns => n.wire :: Node.wireAll ns
termination_by structural ns => ns
end

end KvMarkup.Outline

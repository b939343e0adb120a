import KvMarkup.Number.Integer
import KvMarkup.Outline.Reading
import KvMarkup.Outline.Wire
import KvMarkup.Text.Lines

/-!
# Type hints

A hint shows the type of a property behind it.  Every property below a top-level node whose detail
is a type gets one, in depth-first order, if its line is in the text and has a colon; nodes that
show a value are passed over with what is below them.

An unchecked outline is read only as far as it matters: the name of every node below the top-level
ones, except below a node that shows a value, and the lines of the properties that show a type.
`typed` reads just these, in that order, and leaves out the rest.
-/

namespace KvMarkup.Hint

open KvMarkup.Text KvMarkup.Outline

/-- A label behind a property; line and character count from zero. -/
structure TypeHint where
  line : Int
  character : Nat
  label : String
deriving DecidableEq

def TypeHint.wire (h : TypeHint) : Data :=
  record
    [("position", record [("line", .int h.line), ("character", .int h.character)]),
     ("label", .str h.label), ("kind", .int 1), ("paddingLeft", .bool true),
     ("paddingRight", .bool false)]

/-- Words of a detail that says what a node is and not which type it has. -/
def otherDetails : List String := ["handler", "identifier", "widget", "canvas"]

def isTypeDetail (detail : String) : Bool :=
  detail != "" && !otherDetails.any fun word => occursIn word.toList detail.toList

/-- The type that a node shows, if it is a property and shows one. -/
def shownType? (kind : Kind) (detail : Option String) : Option String :=
  if kind == .property then detail.filter isTypeDetail else none

def showsValue (name : String) : Bool := "value:".toList.isPrefixOf name.toList

/-- The character behind a property: where its text ends, or behind the colon if nothing follows. -/
def hintCharacter? (l : Line) : Option Nat :=
  if l.contains ':' then
    let colon := (l.takeWhile (· != ':')).length
    some (if isBlank (l.drop (colon + 1)) then colon + 1 else (trimEnd l).length)
  else none

/-- The line of the text that a line of the outline is. -/
def lineAt? (ls : List Line) (line : Int) : Option Line :=
  if line < 1 then none else ls[(line - 1).toNat]?

def hintOn (ls : List Line) (line : Int) (type : String) : Option TypeHint := do
  let l ← lineAt? ls line
  let character ← hintCharacter? l
  some ⟨line - 1, character, " " ++ type⟩

mutual
/-- The hints of a node and of what is below it. -/
def hintsOf (ls : List Line) : Node String Int → List TypeHint
  | ⟨name, kind, range, _, detail, children⟩ =>
    if showsValue name then []
    else
      ((shownType? kind detail).bind (hintOn ls range.start.line)).toList ++ hintsBelow ls children
termination_by structural n => n

def hintsBelow (ls : List Line) : List (Node String Int) → List TypeHint
  | [] => []
  | n :: ns => hintsOf ls n ++ hintsBelow ls ns
termination_by structural ns => ns
end

/-- The hints below top-level nodes. -/
def hints (symbols : List (Node String Int)) (text : String) : List TypeHint :=
  symbols.flatMap fun s => hintsBelow (lines text) s.children

/-! ## Unchecked outlines -/

def unusedSpan : Span Int := Span.onLine 0 1 0

mutual
/-- What the hints use of a node. -/
def typed (count : Nat) : UncheckedNode → Except Fault (Node String Int)
  | ⟨name, kind, range, _, detail, children⟩ => do
    let name ← readName name
    if showsValue name then .ok ⟨name, kind, unusedSpan, unusedSpan, detail, []⟩
    else
      let line ← if (shownType? kind detail).isSome then readLine count range.start.line else .ok 0
      let children ← typedAll count children
      .ok ⟨name, kind, Span.onLine line 1 0, unusedSpan, detail, children⟩
termination_by structural n => n

def typedAll (count : Nat) : List UncheckedNode → Except Fault (List (Node String Int))
  | [] => .ok []
  | n :: ns => do
    let n ← typed count n
    let ns ← typedAll count ns
    .ok (n :: ns)
termination_by structural ns => ns
end

/-- The hints below top-level nodes of an unchecked outline. -/
def uncheckedHints (symbols : List UncheckedNode) (text : String) :
    Except Fault (List TypeHint) := do
  let ls := lines text
  let below ← symbols.mapM fun s => typedAll ls.length s.children
  .ok (below.flatMap (hintsBelow ls))

end KvMarkup.Hint

import KvMarkup.Edit.Move
import KvMarkup.Outline.Reading

/-!
# Edits by an unchecked outline

An edit compares the lines of its nodes with the text and then uses them as positions.  Any number
can be compared, and one that is outside the text is reported like an integer; only integers can be
positions.
-/

namespace KvMarkup.Edit

open KvMarkup.Text KvMarkup.Outline

/-- A value that has to be a number. -/
def checkNumeric (d : Data) : Except Fault Unit :=
  if d.isNumeric then .ok () else .error (.notAPosition d.typeName)

/-- A value that has to be an integer. -/
def position (d : Data) : Except Fault Int :=
  match d.integer? with
  | some n => .ok n
  | none => .error (.notAPosition d.typeName)

/-- The whole part of a number, for a note; zero stands for a NaN and the infinities, which have
none. -/
def shownLine (d : Data) : Int := (truncated? d).getD 0

/-- What an edit uses of a node whose lines are integers. -/
def anchorOf (n : UncheckedNode) : Except Fault Anchor := do
  let first ← position n.line
  let last ← position n.lastLine
  let insertion ← position n.insertionLine
  .ok ⟨n.name.quoted, first, last, insertion⟩

def outsideTarget? (count : Nat) (n : UncheckedNode) : Except Fault (Option Note) := do
  checkNumeric n.line
  if withinLines count n.line then .ok none
  else .ok (some (.targetOutside n.name.quoted (shownLine n.line)))

def outsideSource? (count : Nat) (n : UncheckedNode) : Except Fault (Option Note) := do
  checkNumeric n.line
  checkNumeric n.lastLine
  if extentWithin count n then .ok none
  else .ok (some (.sourceOutside n.name.quoted (shownLine n.line) (shownLine n.lastLine)))

/-- `move`, by an unchecked outline. -/
def uncheckedMove (document : String) (source : UncheckedNode) (target : Option UncheckedNode)
    (width : Int) : Except Fault Edited := do
  let count := (lines document).length
  match target with
  | none =>
    match ← outsideSource? count source with
    | some note => .ok ⟨document, [note]⟩
    | none =>
      let source ← anchorOf source
      .ok (moveAnchors document source none false width)
  | some target =>
    if source.contains target then
      .ok ⟨document, [.cycleRefused source.name.quoted target.name.quoted]⟩
    else
      match ← outsideTarget? count target with
      | some note => .ok ⟨document, [note]⟩
      | none =>
        match ← outsideSource? count source with
        | some note => .ok ⟨document, [note]⟩
        | none =>
          let source ← anchorOf source
          let target ← anchorOf target
          .ok (moveAnchors document source (some target) false width)

/-- `drop` under a node of an unchecked outline. -/
def uncheckedDropUnder (document snippet : String) (target : UncheckedNode) (width : Int) :
    Except Fault Edited := do
  let ls := lines document
  match ← outsideTarget? ls.length target with
  | some note => .ok ⟨document, [note]⟩
  | none =>
    let first ← position target.line
    if (anchoredSnippet snippet (indentAt ls first + width)).isEmpty then .ok ⟨document, []⟩
    else
      let insertion ← position target.insertionLine
      .ok (dropUnder document snippet ⟨target.name.quoted, first, first, insertion⟩ width)

end KvMarkup.Edit

import KvMarkup.Edit.Indent
import KvMarkup.Note
import KvMarkup.Text.Space

/-!
# Inserting a snippet

A position among `count` lines is an integer: from zero up it counts from the front and below zero
from the back, and it never leaves the list.  `splice` puts a block in front of a position.

`insert` puts a snippet in front of a line.  The snippet stands at the given column, rounded down to
a whole indent level; a line past the end appends and a negative one prepends.  A snippet of blank
lines changes nothing.
-/

namespace KvMarkup.Edit

open KvMarkup.Text

/-- The number of lines in front of a position. -/
def place (count : Nat) (position : Int) : Nat :=
  if position < 0 then (count + position).toNat else min position.toNat count

/-- The lines with a block put in front of a position. -/
def splice (ls : List Line) (position : Int) (block : List Line) : List Line :=
  let k := place ls.length position
  ls.take k ++ block ++ ls.drop k

@[simp]
theorem length_splice (ls block : List Line) (position : Int) :
    (splice ls position block).length = ls.length + block.length := by
  have : place ls.length position ≤ ls.length := by
    unfold place
    split <;> omega
  simp only [splice, List.length_append, List.length_take, List.length_drop]
  omega

/-- The outcome of an edit: the text after it and what there is to say about it. -/
structure Edited where
  text : String
  notes : List Note

/-- Puts a snippet in front of a line of the text. -/
def insert (source snippet : String) (line column width : Int) : Edited :=
  let indent := roundIndent column width
  let block := anchoredSnippet snippet indent
  if block.isEmpty then ⟨source, []⟩
  else
    let ls := lines source
    let position := min (max 0 line) ls.length
    ⟨ofLines (splice ls position block), [.inserted block.length position indent]⟩

/-- `insert`, for any width but zero. -/
def insert? (source snippet : String) (line column width : Int) : Except EditError Edited :=
  if width == 0 then .error .zeroWidth else .ok (insert source snippet line column width)

end KvMarkup.Edit

import KvMarkup.Edit.Insert
import KvMarkup.Outline.Node
import KvMarkup.Text.Quoted

/-!
# Moving and dropping subtrees

`move` takes the lines of one outline node out of the text and makes them the last child of another,
or puts them at the end of the text.  `drop` makes a snippet the last child of a node.

An edit uses of a node only its name, for notes, and three lines: those its subtree begins and ends
on, and the one after which a new last child goes (`Anchor`).  Outline lines count from one,
positions among lines from zero.

A move is refused, with a note and no change to the text, when the target lies in the moved subtree
or when the source or the target is not in the text.
-/

namespace KvMarkup.Edit

open KvMarkup.Text KvMarkup.Outline

/-- What an edit uses of an outline node. -/
structure Anchor where
  label : String
  first : Int
  last : Int
  insertion : Int

/-- What an edit uses of a well-typed node. -/
def Anchor.ofNode (n : Node String Int) : Anchor :=
  ⟨quote n.name, n.line, n.lastLine, n.insertionLine⟩

def inDocument (line : Int) (count : Nat) : Bool := 1 ≤ line && line ≤ count

/-- The extent lies in the text and is not empty. -/
def extentInDocument (first last : Int) (count : Nat) : Bool :=
  1 ≤ first && last ≤ count && first ≤ last

/-- The blanks in front of a line, counted from one. -/
def indentAt (ls : List Line) (line : Int) : Nat := leadingBlanks (ls[(line - 1).toNat]?.getD [])

/-- The lines outside the extent from `start` up to and without `stop`.  A block that ends with the
text leaves the line break before it behind, as an empty last line. -/
def remaining (ls : List Line) (start stop : Nat) : List Line :=
  if stop < ls.length then ls.take start ++ ls.drop stop else ls.take start ++ [[]]

/-- The number of lines by which what follows the extent moves up. -/
def removedCount (ls : List Line) (start stop : Nat) : Nat :=
  if stop < ls.length then stop - start else stop - start - 1

/-- Puts a block at the end, before an empty last line. -/
def append (ls block : List Line) : List Line :=
  if ls.getLast? == some [] then splice ls ((ls.length : Int) - 1) block else ls ++ block

/-- Moves the lines of a source under a target; `cyclic` tells that the target lies in the source.
-/
def moveAnchors (document : String) (source : Anchor) (target : Option Anchor) (cyclic : Bool)
    (width : Int) : Edited :=
  let ls := lines document
  match target with
  | none =>
    if extentInDocument source.first source.last ls.length then
      let start := (source.first - 1).toNat
      let stop := source.last.toNat
      ⟨ofLines (append (remaining ls start stop) ((ls.take stop).drop start)), []⟩
    else ⟨document, [.sourceOutside source.label source.first source.last]⟩
  | some target =>
    if cyclic then ⟨document, [.cycleRefused source.label target.label]⟩
    else if !inDocument target.first ls.length then
      ⟨document, [.targetOutside target.label target.first]⟩
    else if extentInDocument source.first source.last ls.length then
      let start := (source.first - 1).toNat
      let stop := source.last.toNat
      let position :=
        if target.insertion ≥ stop then target.insertion - removedCount ls start stop
        else target.insertion
      let block := reindent ((ls.take stop).drop start) (indentAt ls target.first + width)
      ⟨ofLines (splice (remaining ls start stop) position block),
        [.moved source.label source.first source.last target.label position]⟩
    else ⟨document, [.sourceOutside source.label source.first source.last]⟩

/-- Makes a node the last child of a target, or puts it at the end of the text. -/
def move (document : String) (source : Node String Int) (target : Option (Node String Int))
    (width : Int) : Edited :=
  moveAnchors document (Anchor.ofNode source) (target.map Anchor.ofNode)
    (target.any source.contains) width

/-- Makes a snippet the last child of a target that stands in the text. -/
def dropUnder (document snippet : String) (target : Anchor) (width : Int) : Edited :=
  let ls := lines document
  if inDocument target.first ls.length then
    let block := anchoredSnippet snippet (indentAt ls target.first + width)
    if block.isEmpty then ⟨document, []⟩
    else
      ⟨ofLines (splice ls target.insertion block),
        [.dropped block.length target.label target.insertion]⟩
  else ⟨document, [.targetOutside target.label target.first]⟩

def dropAtEnd (document snippet : String) (width : Int) : Edited :=
  insert document snippet (lines document).length 0 width

/-- `dropAtEnd`, for any width but zero. -/
def dropAtEnd? (document snippet : String) (width : Int) : Except EditError Edited :=
  insert? document snippet (lines document).length 0 width

/-- Makes a snippet the last child of a target, or puts it at the end of the text. -/
def drop (document snippet : String) (target : Option (Node String Int)) (width : Int) : Edited :=
  match target with
  | none => dropAtEnd document snippet width
  | some n => dropUnder document snippet (Anchor.ofNode n) width

end KvMarkup.Edit

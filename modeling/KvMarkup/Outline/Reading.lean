import KvMarkup.Data.Fault
import KvMarkup.Outline.Node

/-!
# Reading an unchecked outline

The outline of an unchecked document may have any value for a name or a line, and an operation
notices only those that it uses.  `readLine` is the line of a text that a value stands for when it
is looked up there: a number outside the text is a line outside the text, and only an integer can be
inside it.
-/

namespace KvMarkup.Outline

/-- An outline whose names and lines are unchecked. -/
abbrev UncheckedNode := Node Data Data

/-- A well-typed node among the unchecked ones. -/
def ofTyped (n : Node String Int) : UncheckedNode := n.map .str .int

/-- The whole number that a number is or is truncated to. -/
def truncated? : Data → Option Int
  | .int n => some n
  | .bool b => some (if b then 1 else 0)
  | .float x => x.truncate?
  | _ => none

/-- A number that is at least one and at most `count`. -/
def withinLines (count : Nat) (d : Data) : Bool :=
  Data.atMost (.int 1) d && Data.atMost d (.int count)

/-- The lines of a subtree do not begin before the first line of a text of `count` lines, do not end
behind its last one, and are not crossed.  A NaN does none of these things, and a fraction behind
the last line is not yet a line. -/
def extentWithin (count : Nat) (n : UncheckedNode) : Bool :=
  Data.leNumber (.int 1) n.line && !Data.atMost (.int (count + 1)) n.lastLine &&
    Data.leNumber n.line n.lastLine

/-- The line of a text of `count` lines that a value is, when it is looked up. -/
def readLine (count : Nat) (d : Data) : Except Fault Int :=
  match d.integer? with
  | some n => .ok n
  | none =>
    if !d.isNumeric || d.number?.isNone then .error (.notAPosition d.typeName)
    else if !Data.leNumber (.int 1) d then .ok 0
    else if Data.leNumber (.int (count + 1)) d then .ok (count + 1)
    else .error (.notAPosition d.typeName)

/-- The text of a name that has to be one. -/
def readName (d : Data) : Except Fault String :=
  match d with
  | .str s => .ok s
  | d => .error (.lacks d.typeName "startswith")

end KvMarkup.Outline

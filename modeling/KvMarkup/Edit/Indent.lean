import KvMarkup.Text.Lines

/-!
# Indentation

Structural edits move whole lines and change nothing but the blanks in front of them.

* `anchor` puts a snippet at a column: blank lines go, and every other line keeps its distance from
  the first one, or stands at the anchor if it was further left.
* `reindent` shifts a block so that its first line stands at a column; blank lines become empty.

Each kept line is blanks followed by its trimmed text, so neither changes a word of the text.
-/

namespace KvMarkup.Edit

open KvMarkup.Text

/-- The columns of one indent level, unless something else is asked for. -/
def defaultWidth : Int := 4

/-- The largest multiple of `width` up to `column`, and never negative. -/
def roundIndent (column width : Int) : Int := max 0 (column.fdiv width * width)

/-- Why an edit cannot be carried out. -/
inductive EditError where
  | zeroWidth
deriving DecidableEq

/-- `roundIndent`, for any width but zero. -/
def roundIndent? (column width : Int) : Except EditError Int :=
  if width == 0 then .error .zeroWidth else .ok (roundIndent column width)

/-- The distance of an indent from a base, and never negative. -/
def relativeIndent (indent base : Int) : Int := max 0 (indent - base)

/-- The indent of a line when the base of its block moves, and never negative. -/
def rebaseIndent (indent oldBase newBase : Int) : Int := max 0 (newBase + indent - oldBase)

/-- The mark at the end of a snippet where the cursor would go. -/
def endMark : List Char := ['$', '0']

/-- A snippet without its end mark and the white space after that; without the mark it stays. -/
def dropEndMark (snippet : List Char) : List Char :=
  let text := trimEnd snippet
  if endMark.isSuffixOf text then text.take (text.length - endMark.length) else snippet

/-- The blanks in front of the first line that is not blank, and none without such a line. -/
def firstIndent : List Line → Nat
  | [] => 0
  | l :: ls => if isBlank l then firstIndent ls else leadingBlanks l

/-- The lines of a snippet that are not blank, put at a column. -/
def anchor (ls : List Line) (column : Int) : List Line :=
  let base := firstIndent ls
  (ls.filter (!isBlank ·)).map fun l =>
    blanks (column + relativeIndent (leadingBlanks l) base) ++ trim l

def reindentLine (oldBase newBase : Int) (l : Line) : Line :=
  if isBlank l then [] else blanks (rebaseIndent (leadingBlanks l) oldBase newBase) ++ trim l

/-- A block shifted so that its first line stands at a column. -/
def reindent (ls : List Line) (newBase : Int) : List Line :=
  match ls with
  | [] => []
  | first :: _ => ls.map (reindentLine (leadingBlanks first) newBase)

/-- The lines of a snippet, put at a column. -/
def anchoredSnippet (snippet : String) (column : Int) : List Line :=
  anchor ((dropEndMark snippet.toList).splitOn '\n') column

end KvMarkup.Edit

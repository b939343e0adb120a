import KvMarkup.Text.Space

/-!
# Text with style tags

A label for the terminal may contain style tags such as `[bold]` and `[/bold]`.  A tag in brackets
begins with a small letter, `#`, `/` or `@`; an odd number of backslashes in front of it makes it a
text, and two of them stand for one.  `escape` protects a text from being taken for tags, and
`plain` is what a label shows where there are no styles.
-/

namespace KvMarkup.Command.Markup

open KvMarkup.Text

def beginsTag (c : Char) : Bool := ('a' ≤ c && c ≤ 'z') || c == '#' || c == '/' || c == '@'

/-- A tag in brackets from here on: what stands between the brackets, and what follows. -/
def tagHere? (cs : List Char) : Option (List Char × List Char) :=
  match cs with
  | '[' :: c :: rest =>
    if beginsTag c then
      let body := rest.takeWhile fun d => d != ']' && d != '['
      match rest.drop body.length with
      | ']' :: after => some (c :: body, after)
      | _ => none
    else none
  | _ => none

/-- A part of a label. -/
inductive Piece where
  | text (cs : List Char)
  /-- A tag behind some backslashes. -/
  | tag (backslashes : Nat) (body : List Char)
deriving DecidableEq

/-- A tag from here on, perhaps behind backslashes. -/
def slashedTag? (cs : List Char) : Option (Nat × List Char × List Char) :=
  let slashes := cs.takeWhile (· == '\\')
  (tagHere? (cs.drop slashes.length)).map fun t => (slashes.length, t.1, t.2)

/-- A character in front of pieces, joined with a text there. -/
def consChar (c : Char) : List Piece → List Piece
  | .text cs :: ps => .text (c :: cs) :: ps
  | ps => .text [c] :: ps

/-- The pieces of a label. -/
def pieces : Nat → List Char → List Piece
  | 0, _ => []
  | _, [] => []
  | fuel + 1, c :: cs =>
    match slashedTag? (c :: cs) with
    | some (n, body, rest) => .tag n body :: pieces fuel rest
    | none => consChar c (pieces fuel cs)

def piecesOf (label : List Char) : List Piece := pieces (label.length + 1) label

/-! ## Protecting a text -/

def escapePiece : Piece → List Char
  | .text cs => cs
  | .tag n body => List.replicate (2 * n + 1) '\\' ++ '[' :: body ++ [']']

/-- A text in which nothing is taken for a tag; a single backslash at the end is doubled, since a
tag follows it. -/
def escape (text : List Char) : List Char :=
  let cs := (piecesOf text).flatMap escapePiece
  match cs.reverse with
  | '\\' :: '\\' :: _ => cs
  | '\\' :: _ => cs ++ ['\\']
  | _ => cs

/-! ## Showing a label -/

/-- A text whose brackets need not be protected. -/
def openBrackets : List Char → List Char
  | '\\' :: '[' :: cs => '[' :: openBrackets cs
  | c :: cs => c :: openBrackets cs
  | [] => []

/-- The name of a tag, in the form in which it is compared. -/
def styleName (body : List Char) : List Char :=
  (trim (body.takeWhile (· != '='))).map Char.toLower

/-- The open tags after a tag; `none` for a closing tag that closes nothing. -/
def applyTag (stack : List (List Char)) (body : List Char) : Option (List (List Char)) :=
  match body with
  | '/' :: name =>
    let name := styleName name
    if name.isEmpty then
      match stack with
      | [] => none
      | _ :: rest => some rest
    else if stack.contains name then some (stack.erase name) else none
  | _ => some (styleName body :: stack)

/-- What pieces show, with the tags that are open. -/
def showPieces : List (List Char) → List Piece → Option (List Char)
  | _, [] => some []
  | stack, .text cs :: ps => (showPieces stack ps).map (openBrackets cs ++ ·)
  | stack, .tag n body :: ps =>
    let slashes := List.replicate (n / 2) '\\'
    if n % 2 == 1 then
      (showPieces stack ps).map fun rest => slashes ++ '[' :: body ++ ']' :: rest
    else
      (applyTag stack body).bind fun stack => (showPieces stack ps).map (slashes ++ ·)

/-- A control character that moves the cursor and is left out. -/
def isDropped (c : Char) : Bool :=
  c == '\x07' || c == '\x08' || c == '\x0b' || c == '\x0c' || c == '\r'

/-- The text that a label shows; `none` if a closing tag closes nothing. -/
def plain? (label : List Char) : Option (List Char) :=
  let shown := if label.contains '[' then showPieces [] (piecesOf label) else some label
  shown.map fun cs => cs.filter (!isDropped ·)

/-- A line with tabs filled up to the next multiple of eight columns. -/
def expandTabs (column : Nat) : List Char → List Char
  | [] => []
  | '\t' :: cs =>
    let width := 8 - column % 8
    List.replicate width ' ' ++ expandTabs (column + width) cs
  | c :: cs => c :: expandTabs (column + 1) cs

/-- The lines that a label shows. -/
def lines? (label : List Char) : Option (List (List Char)) :=
  (plain? label).map fun cs => (cs.splitOn '\n').map (expandTabs 0)

end KvMarkup.Command.Markup

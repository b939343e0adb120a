import KvMarkup.Yaml.Error

/-!
# A place in a YAML text

What is still to be read, with the offset, line and column that have been reached.  The end of the
text reads as the character U+0000, which no YAML text contains.
-/

namespace KvMarkup.Yaml

structure Cursor where
  rest : List Char
  offset : Nat
  line : Nat
  column : Nat

/-- The end of the text, seen as a character. -/
def endOfText : Char := '\x00'

def isBreak (c : Char) : Bool :=
  c == '\n' || c == '\r' || c == '\x85' || c == '\u2028' || c == '\u2029'

/-- A line break or the end of the text. -/
def endsLine (c : Char) : Bool := c == endOfText || isBreak c

/-- White space, a line break or the end of the text. -/
def endsWord (c : Char) : Bool := endsLine c || c == ' ' || c == '\t'

/-- A character that a YAML text may contain. -/
def isAllowed (c : Char) : Bool :=
  let n := c.toNat
  n == 0x9 || n == 0xA || n == 0xD || (0x20 ≤ n && n ≤ 0x7E) || n == 0x85 ||
    (0xA0 ≤ n && n ≤ 0xD7FF) || (0xE000 ≤ n && n ≤ 0xFFFD) || 0x10000 ≤ n

namespace Cursor

def start (text : List Char) : Cursor := ⟨text, 0, 0, 0⟩

/-- The character `n` places on. -/
def peek (c : Cursor) (n : Nat) : Char := (c.rest.drop n).headD endOfText

def next (c : Cursor) : Char := c.rest.headD endOfText

def step (c : Cursor) : Cursor :=
  match c.rest with
  | [] => c
  | ch :: rest =>
    if isBreak ch && !(ch == '\r' && rest.head? == some '\n') then
      ⟨rest, c.offset + 1, c.line + 1, 0⟩
    else ⟨rest, c.offset + 1, c.line, if ch == '\uFEFF' then c.column else c.column + 1⟩

/-- `n` characters on. -/
def advance (c : Cursor) : Nat → Cursor
  | 0 => c
  | n + 1 => c.step.advance n

/-- The characters from here on for which `p` holds. -/
def spanWhile (c : Cursor) (p : Char → Bool) : List Char := c.rest.takeWhile p

/-- Past the characters for which `p` holds. -/
def skipWhile (c : Cursor) (p : Char → Bool) : Cursor := c.advance (c.spanWhile p).length

/-- Past a line break; with the break as it is kept in a scalar. -/
def lineBreak (c : Cursor) : List Char × Cursor :=
  match c.rest with
  | '\r' :: '\n' :: _ => (['\n'], c.advance 2)
  | ch :: _ =>
    if ch == '\u2028' || ch == '\u2029' then ([ch], c.step)
    else if isBreak ch then (['\n'], c.step)
    else ([], c)
  | [] => ([], c)

/-- A mark of three characters, followed by the end of a word. -/
def atMark (c : Cursor) (mark : List Char) : Bool := mark.isPrefixOf c.rest && endsWord (c.peek 3)

/-- A mark between documents. -/
def atDocumentMark (c : Cursor) : Bool := c.atMark ['-', '-', '-'] || c.atMark ['.', '.', '.']

end Cursor

end KvMarkup.Yaml

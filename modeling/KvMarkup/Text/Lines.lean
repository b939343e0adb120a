import KvMarkup.Text.Space

/-!
# Texts as lists of lines

A document is cut at its line feeds, and joining the lines again gives the document back:

    ofLines (lines s) = s

`splitLines` cuts at every kind of line break (CR LF, a lone CR, a lone LF) and is what a host
counts by; `universal` is the text that reading a file gives, with every line break turned into a
line feed.
-/

namespace KvMarkup.Text

/-- The lines of a text, cut at line feeds; a final line feed leaves an empty last line. -/
def lines (text : String) : List Line := text.toList.splitOn '\n'

def ofLines (ls : List Line) : String := String.ofList (['\n'].intercalate ls)

/-- Cuts at CR LF, CR and LF alike. -/
def splitBreaks : List Char → List Line
  | [] => [[]]
  | '\r' :: '\n' :: cs => [] :: splitBreaks cs
  | '\r' :: cs => [] :: splitBreaks cs
  | '\n' :: cs => [] :: splitBreaks cs
  | c :: cs =>
    match splitBreaks cs with
    | [] => [[c]]
    | l :: ls => (c :: l) :: ls

/-- The lines of a text under every kind of line break. -/
def splitLines (text : String) : List Line := splitBreaks text.toList

def universalBreaks : List Char → List Char
  | [] => []
  | '\r' :: '\n' :: cs => '\n' :: universalBreaks cs
  | '\r' :: cs => '\n' :: universalBreaks cs
  | c :: cs => c :: universalBreaks cs

/-- The text with every line break written as a line feed. -/
def universal (text : String) : String := String.ofList (universalBreaks text.toList)

/-- The text `sep` stands somewhere in `l`. -/
def occursIn (sep l : List Char) : Bool :=
  match l with
  | [] => sep.isEmpty
  | _ :: rest => sep.isPrefixOf l || occursIn sep rest

end KvMarkup.Text

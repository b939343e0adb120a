import KvMarkup.Text.Lines
import KvMarkup.Text.Word

/-!
# The block of a widget

A widget header is white space, a capital letter, word characters and a colon.  The block of a
header is the header with the lines below it that are indented further, up to the first line that is
not; blank lines belong to no block and end none.
-/

namespace KvMarkup.Edit

open KvMarkup.Text

/-- The source text of one widget, with lines counted from zero. -/
structure Block where
  name : String
  code : String
  startLine : Int
  endLine : Int
  lineCount : Nat
deriving DecidableEq

def headerName? (l : Line) : Option Line :=
  match trimStart l with
  | c :: rest =>
    if isCapital c && (rest.dropWhile isWord).head? == some ':' then
      some (c :: rest.takeWhile isWord)
    else none
  | [] => none

def isHeader (l : Line) : Bool := (headerName? l).isSome

/-- Lines with their numbers, from `start` on. -/
def numbered (start : Nat) : List Line → List (Nat × Line)
  | [] => []
  | l :: ls => (start, l) :: numbered (start + 1) ls

/-- The numbered lines that belong to a header with the given indent. -/
def blockLines (indent : Nat) (ls : List (Nat × Line)) : List (Nat × Line) :=
  (ls.filter (!isBlank ·.2)).takeWhile (indent < leadingSpace ·.2)

def blockAt? (text : String) (line : Int) : Option Block :=
  if line < 0 then none
  else
    let start := line.toNat
    let ls := lines text
    match ls[start]? with
    | none => none
    | some header =>
      (headerName? header).map fun name =>
        let inner := blockLines (leadingSpace header) (numbered (start + 1) (ls.drop (start + 1)))
        let stop := (inner.getLast?.map (·.1)).getD start
        ⟨String.ofList name, ofLines (header :: inner.map (·.2)), start, stop, inner.length + 1⟩

end KvMarkup.Edit

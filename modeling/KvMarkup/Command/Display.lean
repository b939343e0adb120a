import KvMarkup.Command.Markup
import KvMarkup.Data.Fault
import KvMarkup.Outline.Reading
import KvMarkup.Palette

/-!
# Trees and tables on the terminal

An outline is shown as a tree with guides in front of its labels, and the palette as a table with a
title, a heavy box around its head and a light one around its rows.
-/

namespace KvMarkup.Command

open KvMarkup.Outline

/-! ## Trees -/

/-- Why an outline cannot be shown. -/
inductive DisplayError where
  /-- A name that is not a text. -/
  | name
  /-- A closing style tag that closes nothing. -/
  | markup
deriving DecidableEq

/-- The label of a node: its name, its detail and its line. -/
def nodeLabel (name : String) (detail : Option String) (line : Data) : List Char :=
  let detail := match detail.filter (· != "") with
    | some d => " [dim]".toList ++ Markup.escape d.toList ++ "[/dim]".toList
    | none => []
  "[bold]".toList ++ Markup.escape name.toList ++ "[/bold]".toList ++ detail ++
    " [cyan]:".toList ++ line.shown.toList ++ "[/cyan]".toList

def labelLines (label : List Char) : Except DisplayError (List (List Char)) :=
  match Markup.lines? label with
  | some ls => .ok ls
  | none => .error .markup

/-- Lines with one guide in front of the first and another in front of the others. -/
def guided (first others : List Char) : List (List Char) → List (List Char)
  | [] => []
  | l :: ls => (first ++ l) :: ls.map (others ++ ·)

mutual
/-- The names of a node and of what is below it are texts. -/
def checkNames : UncheckedNode → Except DisplayError Unit
  | ⟨name, _, _, _, _, children⟩ =>
    match name with
    | .str _ => checkNamesAll children
    | _ => .error .name
termination_by structural n => n

def checkNamesAll : List UncheckedNode → Except DisplayError Unit
  | [] => .ok ()
  | n :: ns => do
    checkNames n
    checkNamesAll ns
termination_by structural ns => ns
end

mutual
/-- The lines of a node behind the guides of its ancestors. -/
def branchLines (guides : List Char) (isLast : Bool) :
    UncheckedNode → Except DisplayError (List (List Char))
  | ⟨name, _, range, _, detail, children⟩ => do
    let own ← labelLines (nodeLabel name.shown detail range.start.line)
    let fork := if isLast then "└── ".toList else "├── ".toList
    let below := guides ++ (if isLast then "    ".toList else "│   ".toList)
    let more ← branchLinesAll below children
    .ok (guided (guides ++ fork) below own ++ more)
termination_by structural n => n

def branchLinesAll (guides : List Char) :
    List UncheckedNode → Except DisplayError (List (List Char))
  | [] => .ok []
  | n :: ns => do
    let own ← branchLines guides ns.isEmpty n
    let more ← branchLinesAll guides ns
    .ok (own ++ more)
termination_by structural ns => ns
end

def treeText (title : String) (symbols : List UncheckedNode) : Except DisplayError String := do
  checkNamesAll symbols
  let top ← labelLines ("[bold green]".toList ++ title.toList ++ "[/bold green]".toList)
  let below ← branchLinesAll [] symbols
  .ok (String.ofList ((top ++ below).flatMap (· ++ ['\n'])))

/-! ## Tables -/

/-- A cell with blanks up to its width, and one on each side. -/
def padded (width : Nat) (cell : String) : String :=
  " " ++ cell ++ String.ofList (List.replicate (width + 1 - cell.length) ' ')

/-- A row with bars around its cells. -/
def tableRow (bar : String) (widths : List Nat) (cells : List String) : String :=
  bar ++ bar.intercalate ((widths.zip cells).map fun c => padded c.1 c.2) ++ bar ++ "\n"

def tableRule (left line middle right : Char) (widths : List Nat) : String :=
  let parts := widths.map fun w => List.replicate (w + 2) line
  String.ofList (left :: [middle].intercalate parts ++ [right, '\n'])

def centred (width : Nat) (text : String) : String :=
  let space := width - text.length
  let left := space / 2
  String.ofList (List.replicate left ' ') ++ text ++
    String.ofList (List.replicate (space - left) ' ')

def tableText (title : String) (head : List String) (rows : List (List String)) : String :=
  let widths := (List.range head.length).map fun i =>
    ((head :: rows).map fun row => (row[i]?.getD "").length).foldl max 0
  let total := (widths.map (· + 3)).foldr (· + ·) 1
  centred total title ++ "\n" ++ tableRule '┏' '━' '┳' '┓' widths ++ tableRow "┃" widths head ++
    tableRule '┡' '━' '╇' '┩' widths ++ String.join (rows.map (tableRow "│" widths)) ++
    tableRule '└' '─' '┴' '┘' widths

/-- A snippet on one line. -/
def oneLine (snippet : String) : String := " ⏎ ".intercalate (snippet.splitOn "\n")

def paletteTable (entries : List PaletteEntry) : String :=
  tableText "KV widget palette" ["Category", "Widget", "Snippet"]
    (entries.map fun e => [e.category, e.name, oneLine e.snippet])

end KvMarkup.Command

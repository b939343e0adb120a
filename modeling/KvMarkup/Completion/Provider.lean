import KvMarkup.Catalog.Basic
import KvMarkup.Completion.Candidate
import KvMarkup.Note
import KvMarkup.Text.Utf8

/-!
# Completion

The candidates at a cursor: every widget type of the catalogue in alphabetical order, or values
suggested by the words on the line.  A behaviour mix-in is offered only in the header of a class
definition.  A cursor outside the text has no candidates.
-/

namespace KvMarkup.Completion

open KvMarkup.Text KvMarkup.Number KvMarkup.Outline

/-- The blanks in front of a property in a snippet. -/
def snippetIndent : String := "    "

def sortNames (names : List String) : List String := names.mergeSort fun a b => decide (a ≤ b)

/-- One line for each property with a numbered tab stop. -/
def tabStops (properties : List String) : List String :=
  (properties.zipIdx 1).map fun p =>
    snippetIndent ++ p.1 ++ ": $\x7b" ++ showInt p.2 ++ "\x7d"

/-- The snippet of a widget type: its header and a tab stop for each property it declares itself. -/
def widgetSnippet (name : String) (properties : List String) : String :=
  let stops :=
    if properties.isEmpty then [snippetIndent ++ "$\x7b1:# properties\x7d"]
    else tabStops (sortNames properties)
  "\n".intercalate ((name ++ ":") :: stops)

def snippetOf (catalog : Catalog) (name : Data) : Except Fault String := do
  let properties ← catalog.properties name
  .ok (widgetSnippet name.shown (properties.map (·.1)))

def baseNames (bases : List Data) : Except Fault (List String) :=
  bases.mapM fun b =>
    match b with
    | .str s => .ok s
    | d => .error (.notJoinable d.typeName)

/-- What a widget type inherits, for the detail of its candidate. -/
def inheritance (bases : List String) (inHeader : Bool) : String :=
  if bases.isEmpty then "Widget"
  else "Inherits: " ++ ", ".intercalate bases ++ ", " ++ (if inHeader then "Widget" else "")

/-- A name that ends like that of a behaviour mix-in. -/
def isMixin (name : String) : Bool := "Behavior".toList.isSuffixOf name.toList

/-- The label of a name: a text, or bytes that are one. -/
def labelText? : Data → Option String
  | .str s => some s
  | .bytes bs => decodeUtf8? bs
  | _ => none

/-- The candidate of one widget type in a class header. -/
def headerCandidate (catalog : Catalog) (name : Data) : Except Fault (Option Candidate) := do
  let bases ← catalog.bases name
  let bases ← baseNames bases
  match labelText? name with
  | some label =>
    .ok (some ⟨label, .typeName, inheritance bases true,
      some ("Kivy " ++ name.shown ++ " widget (class definition)"), label, false⟩)
  | none => .error (.invalidField "label")

/-- The candidate of one widget type where a widget begins; a mix-in has none. -/
def widgetCandidate (catalog : Catalog) (name : Data) : Except Fault (Option Candidate) :=
  match name with
  | .str label =>
    if isMixin label then .ok none
    else do
      let bases ← catalog.bases name
      let bases ← baseNames bases
      let snippet ← snippetOf catalog name
      .ok (some ⟨label, .snippet, inheritance bases false,
        some ("Kivy " ++ label ++ " widget"), snippet, true⟩)
  | .bytes _ => .error .textInBytes
  | d => .error (.lacks d.typeName "endswith")

/-- One candidate for each widget type of the catalogue, in alphabetical order. -/
def widgetCandidates (catalog : Catalog) (inHeader : Bool) : Except Fault (List Candidate) := do
  let names := catalog.widgetNames
  checkOrder names
  let sorted := names.mergeSort fun a b => (a.le? b).getD true
  let found ← sorted.mapM fun name =>
    if inHeader then headerCandidate catalog name else widgetCandidate catalog name
  .ok (found.filterMap id)

/-- A candidate that inserts its label. -/
def plain (label : String) (kind : CandidateKind) (detail : String) : Candidate :=
  ⟨label, kind, detail, none, label, false⟩

/-- Values suggested by the words on the line. -/
def valueCandidates (line : Line) : List Candidate :=
  (if line.contains ':' then
    [plain "True" .constant "Boolean value", plain "False" .constant "Boolean value"] else []) ++
  (if occursIn "orientation".toList line then
    [plain "'vertical'" .value "Vertical orientation",
     plain "'horizontal'" .value "Horizontal orientation"] else []) ++
  (if occursIn "size_hint".toList line then
    [plain "None, None" .value "No size hint", plain "1, 1" .value "Full size hint"] else [])

def candidatesIn (catalog : Catalog) (line : Line) : Context → Except Fault (List Candidate)
  | .widgetName => widgetCandidates catalog false
  | .classDefinition => widgetCandidates catalog true
  | .propertyValue => .ok (valueCandidates line)
  | .nothing => .ok []

/-- The candidates at a cursor; lines and characters count from zero. -/
def complete (catalog : Catalog) (text : String) (line character : Int) :
    Noted (Except Fault (List Candidate)) :=
  let ls := splitLines text
  match if line < 0 then none else ls[line.toNat]? with
  | none => ⟨.ok [], [.lineOutOfBounds line ls.length]⟩
  | some l =>
    let before := l.take character.toNat
    let context := contextOf before
    let found := Note.contextFound (quote (String.ofList before)) context.name
    match candidatesIn catalog l context with
    | .ok candidates => ⟨.ok candidates, [found, .candidatesMade candidates.length]⟩
    | .error f => ⟨.error f, [found]⟩

end KvMarkup.Completion

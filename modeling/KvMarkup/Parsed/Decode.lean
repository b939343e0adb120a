import KvMarkup.Data.Fault
import KvMarkup.Parsed.Module

/-!
# Decoding a parsed document

The parser's JSON has the shape `{"rules": […], "root": {…}}`.  Names, values and lines are taken as
they are; only required keys and the nesting are looked at, in reading order, and the first thing
that does not fit is the fault: rules before the root, and in each part its required keys, then
properties, handlers, children, `canvas`, `canvasBefore`, `canvasAfter`.

A collection that is not a sequence is walked the way any value is: a text by its characters and a
mapping by its keys, none of which has the keys of a part.

Widgets are decoded however deep they are nested; the bounded stack of an interpreter is left out.
-/

namespace KvMarkup.Parsed

/-- The value under a required key. -/
def required (entries : List (Data × Data)) (key : String) : Except Fault Data :=
  match Data.field? entries key with
  | some value => .ok value
  | none => .error (.missingKey key)

/-- The entries of a part, which has to be a mapping. -/
def entriesOf : Data → Except Fault (List (Data × Data))
  | .map entries => .ok entries
  | d => .error (.notIndexed d)

/-- What walking a collection that is not a sequence comes to: nothing when it is empty, and
otherwise the fault of its first character or key. -/
def noParts (collection : Data) : Except Fault (List α) :=
  match collection with
  | .str s =>
    match s.toList with
    | [] => .ok []
    | c :: _ => .error (.notIndexed (.str (String.singleton c)))
  | .map [] => .ok []
  | .map (e :: _) => .error (.notIndexed e.1)
  | .list _ => .ok []
  | d => .error (.notIterable d.typeName)

/-- Decodes each item of an optional collection. -/
def collection (decode : Data → Except Fault α) : Option Data → Except Fault (List α)
  | none => .ok []
  | some (.list items) => items.mapM decode
  | some other => noParts other

def Property.decode (d : Data) : Except Fault (Property Data Data) := do
  let entries ← entriesOf d
  let name ← required entries "name"
  let line ← required entries "line"
  .ok ⟨name, (Data.field? entries "value").getD (.str ""), line⟩

def Handler.decode (d : Data) : Except Fault (Handler Data Data) := do
  let entries ← entriesOf d
  let name ← required entries "name"
  let line ← required entries "line"
  .ok ⟨name, line⟩

def Instruction.decode (d : Data) : Except Fault (Instruction Data Data) := do
  let entries ← entriesOf d
  let name ← required entries "instructionType"
  let line ← required entries "line"
  let properties ← collection Property.decode (Data.field? entries "properties")
  .ok ⟨name, line, properties⟩

def Canvas.decode (d : Data) : Except Fault (Canvas Data Data) := do
  let entries ← entriesOf d
  let line ← required entries "line"
  let instructions ← collection Instruction.decode (Data.field? entries "instructions")
  .ok ⟨line, instructions⟩

/-- Decodes a canvas block that may be missing or null. -/
def Canvas.decode? (entries : List (Data × Data)) (key : String) :
    Except Fault (Option (Canvas Data Data)) :=
  match Data.field? entries key with
  | none => .ok none
  | some .null => .ok none
  | some d => (Canvas.decode d).map some

/-- A name that may be missing or null. -/
def optionalName (entries : List (Data × Data)) (key : String) : Option Data :=
  match Data.field? entries key with
  | some .null => none
  | d => d

mutual
/-- Decodes a widget with everything below it. -/
def Widget.decode (d : Data) : Except Fault (Widget Data Data) :=
  match d with
  | .map entries => do
    let name ← required entries "name"
    let line ← required entries "line"
    let properties ← collection Property.decode (Data.field? entries "properties")
    let handlers ← collection Handler.decode (Data.field? entries "handlers")
    let children ← match _h : Data.field? entries "children" with
      | none => .ok []
      | some (.list items) => Widget.decodeAll items
      | some other => noParts other
    let canvas ← Canvas.decode? entries "canvas"
    let canvasBefore ← Canvas.decode? entries "canvasBefore"
    let canvasAfter ← Canvas.decode? entries "canvasAfter"
    .ok ⟨name, line, optionalName entries "id", properties, handlers, children,
      canvas, canvasBefore, canvasAfter⟩
  | d => .error (.notIndexed d)
termination_by sizeOf d
decreasing_by
  have := Data.sizeOf_find?_lt _h
  simp only [Data.list.sizeOf_spec] at this
  simp only [Data.map.sizeOf_spec]
  omega

def Widget.decodeAll (ds : List Data) : Except Fault (List (Widget Data Data)) :=
  match ds with
  | [] => .ok []
  | d :: rest => do
    let widget ← Widget.decode d
    let widgets ← Widget.decodeAll rest
    .ok (widget :: widgets)
termination_by sizeOf ds
end

def Rule.decode (d : Data) : Except Fault (Rule Data Data) := do
  let entries ← entriesOf d
  let selector ← required entries "selectorName"
  let line ← required entries "line"
  let properties ← collection Property.decode (Data.field? entries "properties")
  let handlers ← collection Handler.decode (Data.field? entries "handlers")
  let children ← collection Widget.decode (Data.field? entries "children")
  let canvas ← Canvas.decode? entries "canvas"
  let canvasBefore ← Canvas.decode? entries "canvasBefore"
  let canvasAfter ← Canvas.decode? entries "canvasAfter"
  .ok ⟨selector, line, properties, handlers, children, canvas, canvasBefore, canvasAfter⟩

/-- Decodes a document; a root that is null, empty or otherwise nothing means that there is none. -/
def Module.decode (d : Data) : Except Fault (Module Data Data) :=
  match d with
  | .map entries => do
    let rules ← collection Rule.decode (Data.field? entries "rules")
    let root ← match Data.field? entries "root" with
      | none => .ok none
      | some r => if r.isTruthy then (Widget.decode r).map some else .ok none
    .ok ⟨rules, root⟩
  | d => .error (.lacks d.typeName "get")

end KvMarkup.Parsed

import KvMarkup.Outline.Label
import KvMarkup.Outline.Node
import KvMarkup.Parsed.Module

/-!
# The outline of a parsed document

`ofModule` gives one tree for each rule, in declaration order, and one for the root widget.  Each
part of the document becomes one node below the node of its owner.  The children of a node are
gathered by category (properties, handlers, child widgets, then the `canvas`, `canvas.before` and
`canvas.after` blocks) and then put in the order of their lines; the sort is stable, so the category
decides among equal lines.

A property's detail is its type as the catalogue knows it; nothing else depends on the catalogue.
-/

namespace KvMarkup.Outline

open KvMarkup.Parsed

/-- The types that a catalogue knows for a property of a widget type and for a parameter of a
drawing instruction. -/
structure TypeLookup (ν : Type) where
  property : String → ν → Option String
  parameter : String → ν → Option String

/-- Widgets of these names are drawing instructions wherever they stand. -/
def drawingInstructions : List String :=
  ["Color", "Rectangle", "Ellipse", "Line", "Point", "Mesh", "Triangle", "Quad",
   "Bezier", "StencilPush", "StencilPop", "StencilUse", "StencilUnUse",
   "Scale", "Rotate", "PushMatrix", "PopMatrix", "Translate"]

/-- The columns that are highlighted for a value. -/
def valueWidth : Int := 5

/-- Whom a property belongs to. -/
inductive Owner where
  | widget
  | instruction
deriving DecidableEq

section

variable {ν ℓ : Type} [Label ν] [LineOrder ℓ]

/-- Nodes in the order of their lines; nodes of one line keep their order. -/
def byLine (nodes : List (Node ν ℓ)) : List (Node ν ℓ) :=
  nodes.mergeSort fun a b => LineOrder.le a.line b.line

/-- A node that covers its name on its own line. -/
def node (name : ν) (kind : Kind) (detail : String) (line : ℓ) (children : List (Node ν ℓ)) :
    Node ν ℓ :=
  let range := Span.onLine line 1 (Label.width name)
  ⟨name, kind, range, range, some detail, byLine children⟩

/-- A text that says something, or the other one. -/
def orDefault (text : Option String) (default : String) : String :=
  match text with
  | some s => if s == "" then default else s
  | none => default

/-- A name that is the given text. -/
def isNamed (name : ν) (text : String) : Bool := Label.text? name == some text

def beginsWith (start : String) (name : ν) : Bool :=
  match Label.text? name with
  | some s => start.toList.isPrefixOf s.toList
  | none => false

def propertyKind (name : ν) : Kind :=
  if beginsWith "on_" name then .event
  else if isNamed name "id" then .identifier
  else .property

/-- The detail of a property: what it is, or its type as the catalogue knows it. -/
def propertyDetail (types : TypeLookup ν) (owner : Owner) (ownerName name : ν) : String :=
  match propertyKind name with
  | .event => "event handler"
  | .identifier => "identifier"
  | _ =>
    match owner with
    | .instruction => orDefault (types.parameter (Label.shown name) ownerName) "parameter"
    | .widget => orDefault (types.property (Label.shown name) ownerName) "Property"

/-- The node of a property's value, which has no detail. -/
def valueNode (value : ν) (line : ℓ) : Node ν ℓ :=
  let range := Span.onLine line 1 valueWidth
  ⟨Label.ofText ("value: " ++ Label.shown value), .value, range, range, none, []⟩

/-- The node of a property, with its value below it when it has one. -/
def propertyNode (types : TypeLookup ν) (owner : Owner) (ownerName : ν) (p : Property ν ℓ) :
    Node ν ℓ :=
  node p.name (propertyKind p.name) (propertyDetail types owner ownerName p.name) p.line
    (if Label.isPresent p.value then [valueNode p.value p.line] else [])

def handlerNode (h : Handler ν ℓ) : Node ν ℓ := node h.name .event "event handler" h.line []

def instructionNode (types : TypeLookup ν) (i : Instruction ν ℓ) : Node ν ℓ :=
  node i.name .instruction "canvas instruction" i.line
    (i.properties.map (propertyNode types .instruction i.name))

def canvasNode (types : TypeLookup ν) (label : String) (c : Canvas ν ℓ) : Node ν ℓ :=
  node (Label.ofText label) .canvasBlock "canvas block" c.line
    (c.instructions.map (instructionNode types))

/-- The nodes of the canvas blocks that are there. -/
def canvasNodes (types : TypeLookup ν) (canvas before after : Option (Canvas ν ℓ)) :
    List (Node ν ℓ) :=
  (canvas.map (canvasNode types "canvas")).toList ++
    (before.map (canvasNode types "canvas.before")).toList ++
    (after.map (canvasNode types "canvas.after")).toList

def isDrawing (name : ν) : Bool :=
  match Label.text? name with
  | some s => drawingInstructions.contains s
  | none => false

/-- The display name of a widget: its own, with its id when it has one. -/
def widgetName (name : ν) (id : Option ν) : ν :=
  match id with
  | some i =>
    if Label.isPresent i then Label.ofText (Label.shown name ++ " (id: " ++ Label.shown i ++ ")")
    else name
  | none => name

mutual
def widgetNode (types : TypeLookup ν) : Widget ν ℓ → Node ν ℓ
  | ⟨name, line, id, properties, handlers, children, canvas, before, after⟩ =>
    let owner := if isDrawing name then Owner.instruction else Owner.widget
    node (widgetName name id)
      (if isDrawing name then .instruction else .widget)
      (if isDrawing name then "canvas instruction" else "widget")
      line
      (properties.map (propertyNode types owner name) ++ handlers.map handlerNode ++
        widgetNodes types children ++ canvasNodes types canvas before after)
termination_by structural w => w

def widgetNodes (types : TypeLookup ν) : List (Widget ν ℓ) → List (Node ν ℓ)
  | [] => []
  | w :: ws => widgetNode types w :: widgetNodes types ws
termination_by structural ws => ws
end

def ruleNode (types : TypeLookup ν) (r : Rule ν ℓ) : Node ν ℓ :=
  node r.selector .rule "rule" r.line
    (r.properties.map (propertyNode types .widget r.selector) ++ r.handlers.map handlerNode ++
      widgetNodes types r.children ++ canvasNodes types r.canvas r.canvasBefore r.canvasAfter)

/-- The outline: one tree for each rule and then one for the root. -/
def ofModule (types : TypeLookup ν) (m : Module ν ℓ) : List (Node ν ℓ) :=
  m.rules.map (ruleNode types) ++ (m.root.map (widgetNode types)).toList

end

end KvMarkup.Outline

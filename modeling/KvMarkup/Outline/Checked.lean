import KvMarkup.Data.Fault
import KvMarkup.Outline.Mapping

/-!
# The outline of an unchecked document

A document decoded from JSON may have any value for a name or a line.  `check` walks the document in
the order in which its outline is made and finds the first value that cannot serve: a property name
that is not a text, an owner that a catalogue cannot be asked about, a name without a length, lines
without a common order among siblings.  A document that passes has the outline that `ofModule`
gives.
-/

namespace KvMarkup.Outline

open KvMarkup.Parsed

/-- Type look-ups that may fail, because the owner or a base type is no key. -/
structure PartialLookup where
  property : String → Data → Except Fault (Option String)
  parameter : String → Data → Except Fault (Option String)

/-- The look-ups where they succeed. -/
def PartialLookup.total (l : PartialLookup) : TypeLookup Data where
  property name owner := (l.property name owner).toOption.join
  parameter name owner := (l.parameter name owner).toOption.join

/-- A name that has a length. -/
def checkLength (name : Data) : Except Fault Unit :=
  match partCount? name with
  | some _ => .ok ()
  | none => .error (.noLength name.typeName)

/-- A value that can be a key. -/
def checkKey (name : Data) : Except Fault Unit :=
  if name.isKey then .ok () else .error (.notAKey name.typeName)

/-- Values that have a common order with the first one. -/
def checkOrderFrom (a : Data) : List Data → Except Fault Unit
  | [] => .ok ()
  | b :: rest =>
    match a.le? b with
    | some _ => checkOrderFrom a rest
    | none => .error (.unordered b.typeName a.typeName)

/-- Values that can be put in order; a single one always can. -/
def checkOrder : List Data → Except Fault Unit
  | [] => .ok ()
  | a :: rest => do
    checkOrderFrom a rest
    checkOrder rest

/-- Checks a property of an owner. -/
def checkProperty (lookup : PartialLookup) (owner : Owner) (ownerName : Data)
    (p : Property Data Data) : Except Fault Unit := do
  match p.name with
  | .str name =>
    match propertyKind p.name with
    | .property =>
      match owner with
      | .instruction => discard (lookup.parameter name ownerName)
      | .widget => discard (lookup.property name ownerName)
    | _ => .ok ()
  | d => .error (.lacks d.typeName "startswith")

def checkInstruction (lookup : PartialLookup) (i : Instruction Data Data) : Except Fault Unit := do
  i.properties.forM (checkProperty lookup .instruction i.name)
  checkLength i.name
  checkOrder (i.properties.map (·.line))

/-- Checks a canvas block that may be missing. -/
def checkCanvas (lookup : PartialLookup) : Option (Canvas Data Data) → Except Fault Unit
  | none => .ok ()
  | some c => do
    c.instructions.forM (checkInstruction lookup)
    checkOrder (c.instructions.map (·.line))

/-- The lines of the parts that an owner has directly. -/
def ownedLines (properties : List (Property Data Data)) (handlers : List (Handler Data Data))
    (children : List (Widget Data Data)) (canvases : List (Option (Canvas Data Data))) :
    List Data :=
  properties.map (·.line) ++ handlers.map (·.line) ++ children.map (·.line) ++
    canvases.filterMap (·.map (·.line))

mutual
def checkWidget (lookup : PartialLookup) : Widget Data Data → Except Fault Unit
  | ⟨name, _, id, properties, handlers, children, canvas, before, after⟩ => do
    checkKey name
    let owner := if isDrawing name then Owner.instruction else Owner.widget
    properties.forM (checkProperty lookup owner name)
    handlers.forM fun h => checkLength h.name
    checkWidgets lookup children
    checkCanvas lookup canvas
    checkCanvas lookup before
    checkCanvas lookup after
    checkLength (widgetName name id)
    checkOrder (ownedLines properties handlers children [canvas, before, after])
termination_by structural w => w

def checkWidgets (lookup : PartialLookup) : List (Widget Data Data) → Except Fault Unit
  | [] => .ok ()
  | w :: ws => do
    checkWidget lookup w
    checkWidgets lookup ws
termination_by structural ws => ws
end

def checkRule (lookup : PartialLookup) (r : Rule Data Data) : Except Fault Unit := do
  r.properties.forM (checkProperty lookup .widget r.selector)
  r.handlers.forM fun h => checkLength h.name
  checkWidgets lookup r.children
  checkCanvas lookup r.canvas
  checkCanvas lookup r.canvasBefore
  checkCanvas lookup r.canvasAfter
  checkLength r.selector
  checkOrder
    (ownedLines r.properties r.handlers r.children [r.canvas, r.canvasBefore, r.canvasAfter])

/-- Checks a document in the order in which its outline is made. -/
def check (lookup : PartialLookup) (m : Module Data Data) : Except Fault Unit := do
  m.rules.forM (checkRule lookup)
  match m.root with
  | some w => checkWidget lookup w
  | none => .ok ()

/-- The outline of a document that passes the check. -/
def ofUnchecked (lookup : PartialLookup) (m : Module Data Data) :
    Except Fault (List (Node Data Data)) := do
  check lookup m
  .ok (ofModule lookup.total m)

end KvMarkup.Outline

/-!
# The parsed document

A KV document as the parser hands it over: rules in declaration order and at most one root widget.
Every part has the line that it stands on, counted from one.

The types are generic in what a name (`ν`) and a line (`ℓ`) are.  A well-typed document has texts
and integers there; a document decoded from JSON has whatever the JSON had.
-/

namespace KvMarkup.Parsed

/-- A `name: value` assignment. -/
structure Property (ν ℓ : Type) where
  name : ν
  value : ν
  line : ℓ

structure Handler (ν ℓ : Type) where
  name : ν
  line : ℓ

structure Instruction (ν ℓ : Type) where
  name : ν
  line : ℓ
  properties : List (Property ν ℓ)

structure Canvas (ν ℓ : Type) where
  line : ℓ
  instructions : List (Instruction ν ℓ)

structure Widget (ν ℓ : Type) where
  name : ν
  line : ℓ
  id : Option ν
  properties : List (Property ν ℓ)
  handlers : List (Handler ν ℓ)
  children : List (Widget ν ℓ)
  canvas : Option (Canvas ν ℓ)
  canvasBefore : Option (Canvas ν ℓ)
  canvasAfter : Option (Canvas ν ℓ)

/-- A `<Name>` or `<Name@Base>` rule. -/
structure Rule (ν ℓ : Type) where
  selector : ν
  line : ℓ
  properties : List (Property ν ℓ)
  handlers : List (Handler ν ℓ)
  children : List (Widget ν ℓ)
  canvas : Option (Canvas ν ℓ)
  canvasBefore : Option (Canvas ν ℓ)
  canvasAfter : Option (Canvas ν ℓ)

structure Module (ν ℓ : Type) where
  rules : List (Rule ν ℓ)
  root : Option (Widget ν ℓ)

end KvMarkup.Parsed

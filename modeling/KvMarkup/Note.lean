import KvMarkup.Number.Integer

/-!
# Notes

What an operation has to say beside its result.  An operation returns its notes in the order in
which they arise; whether one is shown depends on its level.  `Note.line` is the text of a shown
note.
-/

namespace KvMarkup

open KvMarkup.Number

inductive Level where
  | debug
  | info
  | warning
  | error
  | critical
deriving DecidableEq

namespace Level

/-- Levels in increasing order of weight. -/
def weight : Level → Nat
  | .debug => 10
  | .info => 20
  | .warning => 30
  | .error => 40
  | .critical => 50

def name : Level → String
  | .debug => "DEBUG"
  | .info => "INFO"
  | .warning => "WARNING"
  | .error => "ERROR"
  | .critical => "CRITICAL"

end Level

/-- What there is to say; names come in quotes already. -/
inductive Note where
  | cycleRefused (source target : String)
  | targetOutside (target : String) (line : Int)
  | sourceOutside (source : String) (first last : Int)
  | moved (source : String) (first last : Int) (target : String) (place : Int)
  | dropped (count : Nat) (target : String) (place : Int)
  | inserted (count : Nat) (place indent : Int)
  | insertionRequested (line column : String)
  | noParser
  | sourceRejected (reason : String)
  | parserFailed (kind reason : String)
  | catalogLoaded (path : String) (widgets instructions : Nat)
  | lineOutOfBounds (line : Int) (total : Nat)
  | contextFound (before context : String)
  | candidatesMade (count : Nat)
  | imageMissing (path property : String)
  | dimensionsUnreadable (path reason : String)
deriving DecidableEq

namespace Note

def level : Note → Level
  | .cycleRefused .. => .warning
  | .targetOutside .. => .warning
  | .sourceOutside .. => .warning
  | .noParser => .warning
  | .sourceRejected .. => .warning
  | .parserFailed .. => .warning
  | _ => .debug

/-- The part of the program that a note comes from. -/
def origin : Note → String
  | .cycleRefused .. => "kvlens.editing.move"
  | .targetOutside .. => "kvlens.editing.move"
  | .sourceOutside .. => "kvlens.editing.move"
  | .moved .. => "kvlens.editing.move"
  | .dropped .. => "kvlens.editing.move"
  | .inserted .. => "kvlens.editing.insert"
  | .insertionRequested .. => "kvlens.service"
  | .noParser => "kvlens.service"
  | .sourceRejected .. => "kvlens.service"
  | .parserFailed .. => "kvlens.service"
  | .catalogLoaded .. => "kvlens.registry.catalog"
  | .lineOutOfBounds .. => "kvlens.completion.provider"
  | .contextFound .. => "kvlens.completion.provider"
  | .candidatesMade .. => "kvlens.completion.provider"
  | .imageMissing .. => "kvlens.features.images"
  | .dimensionsUnreadable .. => "kvlens.features.images"

def message : Note → String
  | .cycleRefused source target =>
    "Refusing to move " ++ source ++ " into itself or its own descendant " ++ target
  | .targetOutside target line =>
    "Target " ++ target ++ " (line " ++ showInt line ++ ") is outside the document"
  | .sourceOutside source first last =>
    "Source " ++ source ++ " (lines " ++ showInt first ++ "-" ++ showInt last ++
      ") is outside the document"
  | .moved source first last target place =>
    "Moving " ++ source ++ " (lines " ++ showInt first ++ "-" ++ showInt last ++ ") under " ++
      target ++ " at line " ++ showInt place
  | .dropped count target place =>
    "Dropping " ++ showInt count ++ " line(s) under " ++ target ++ " at line " ++ showInt place
  | .inserted count place indent =>
    "Inserting " ++ showInt count ++ " line(s) at line " ++ showInt place ++ ", indent " ++
      showInt indent
  | .insertionRequested line column => "Drop at line " ++ line ++ ", column " ++ column
  | .noParser => "No KV parser configured; returning an empty outline"
  | .sourceRejected reason => "Error extracting symbols: " ++ reason
  | .parserFailed kind reason => "Parser failed unexpectedly: " ++ kind ++ ": " ++ reason
  | .catalogLoaded path widgets instructions =>
    "Loaded catalog " ++ path ++ ": " ++ showInt widgets ++ " widgets, " ++
      showInt instructions ++ " instructions"
  | .lineOutOfBounds line total =>
    "Line " ++ showInt line ++ " out of bounds (total: " ++ showInt total ++ ")"
  | .contextFound before context => "Completion context for " ++ before ++ ": " ++ context
  | .candidatesMade count => "Generated " ++ showInt count ++ " completions"
  | .imageMissing path property => "Image " ++ path ++ " not found for " ++ property
  | .dimensionsUnreadable path reason =>
    "Could not read dimensions of " ++ path ++ ": " ++ reason

/-- The text of a note that is shown. -/
def line (n : Note) : String := n.level.name ++ " " ++ n.origin ++ ": " ++ n.message

end Note

/-- A value together with the notes of the operation that gave it. -/
structure Noted (α : Type) where
  value : α
  notes : List Note

end KvMarkup

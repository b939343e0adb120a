import KvMarkup.Catalog.Basic
import KvMarkup.Color.Literal
import KvMarkup.Completion.Provider
import KvMarkup.Edit.Block
import KvMarkup.Edit.Unchecked
import KvMarkup.Hint.Basic
import KvMarkup.Image.Preview
import KvMarkup.Json.Print
import KvMarkup.Outline.Wire
import KvMarkup.Parsed.Decode
import KvMarkup.Settings

/-!
# The language service

One entry point for a host: a catalogue, the settings and, where there is one, the parser.  A source
that the parser cannot read has no outline, and a note says why; a parser's failure never gets
further than that.  Of an edit a host learns whether it was carried out, and either the new text or
the reason.
-/

namespace KvMarkup.Edit

open KvMarkup.Outline

/-- What a host learns of its edit. -/
inductive Result where
  | done (text : String)
  | failed (reason : String)
deriving DecidableEq

def Result.wire : Result → Data
  | .done text => record [("success", .bool true), ("kvCode", .str text)]
  | .failed reason => record [("success", .bool false), ("error", .str reason)]

/-- The result as a JSON text on one line. -/
def Result.json : Result → String
  | .done text => "\x7b\"success\":true,\"kvCode\":" ++ Json.escapeText text ++ "\x7d"
  | .failed reason => "\x7b\"success\":false,\"error\":" ++ Json.escapeText reason ++ "\x7d"

end KvMarkup.Edit

namespace KvMarkup

open KvMarkup.Outline KvMarkup.Parsed KvMarkup.Text KvMarkup.Edit

/-- Why a parser gives no document. -/
inductive ParseFailure where
  /-- The source is not well formed. -/
  | rejected (reason : String)
  /-- The parser itself failed. -/
  | failed (kind reason : String)

/-- What turns a source into a document. -/
abbrev Parser := String → Except ParseFailure (Module Data Data)

/-- A catalogue, the settings and perhaps a parser. -/
structure Service where
  catalog : Catalog
  settings : Settings
  parser : Option Parser

namespace Service

def indentWidth (s : Service) : Int := s.settings.indentWidth

def outlineOf (s : Service) (m : Module Data Data) : Except Fault (List UncheckedNode) :=
  ofUnchecked s.catalog.lookup m

/-- The outline of a source; none, with a note, if it cannot be parsed. -/
def outline (s : Service) (source : String) : Noted (Except Fault (List UncheckedNode)) :=
  match s.parser with
  | none => ⟨.ok [], [.noParser]⟩
  | some parse =>
    match parse source with
    | .ok m => ⟨s.outlineOf m, []⟩
    | .error (.rejected reason) => ⟨.ok [], [.sourceRejected reason]⟩
    | .error (.failed kind reason) => ⟨.ok [], [.parserFailed kind reason]⟩

def complete (s : Service) (source : String) (line character : Int) :
    Noted (Except Fault (List Completion.Candidate)) :=
  Completion.complete s.catalog source line character

/-- The whole part of a value that is a number and not a truth value. -/
def finiteNumber? : Data → Option Int
  | .int n => some n
  | .float x => x.truncate?
  | _ => none

/-- Inserts a snippet where a host dropped it; the line counts from one.  Anything but two texts and
two finite numbers is refused. -/
def addWidget (s : Service) (source snippet line column : Data) : Noted Result :=
  match source, snippet, finiteNumber? line, finiteNumber? column with
  | .str source, .str snippet, some l, some c =>
    let edited := insert source snippet (l - 1) c s.indentWidth
    ⟨.done edited.text, .insertionRequested line.shown column.shown :: edited.notes⟩
  | _, _, _, _ => ⟨.failed "Invalid arguments", []⟩

/-- Moves a node under another one or to the end. -/
def move (s : Service) (source : String) (item : UncheckedNode) (target : Option UncheckedNode) :
    Except Fault Edited :=
  uncheckedMove source item target s.indentWidth

/-- Drops a snippet under a node or at the end. -/
def drop (s : Service) (source snippet : String) (target : Option UncheckedNode) :
    Except Fault Edited :=
  match target with
  | none => .ok (dropAtEnd source snippet s.indentWidth)
  | some n => uncheckedDropUnder source snippet n s.indentWidth

def hints (s : Service) (source : String) : Noted (Except Fault (List Hint.TypeHint)) :=
  let symbols := s.outline source
  ⟨symbols.value.bind fun ns => Hint.uncheckedHints ns source, symbols.notes⟩

def colors (s : Service) (source : String) : Noted (Except Fault (List Color.Swatch)) :=
  let symbols := s.outline source
  ⟨symbols.value.bind fun ns => Color.uncheckedSwatches Color.double ns source, symbols.notes⟩

/-- The picture named on a line, counted from zero. -/
def image (source : String) (line : Int) (tree : File.Tree)
    (document workspace : Option File.Path) : Noted (Option Image.Preview) :=
  match if line < 0 then none else (lines source)[line.toNat]? with
  | none => ⟨none, []⟩
  | some l => Image.preview tree l document workspace

end Service

end KvMarkup

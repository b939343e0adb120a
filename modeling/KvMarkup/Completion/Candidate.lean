import KvMarkup.Outline.Wire
import KvMarkup.Text.Lines

/-!
# Contexts and candidates of a completion

The text left of the cursor, without the white space in front, says what is being typed: without a
colon it is the name of a widget, with an opening `<` and no `>` the header of a class definition,
and otherwise a value, unless the colon is the last character.

A candidate is offered to the host with a label, a kind, what it inserts and whether the inserted
text is a snippet with tab stops.
-/

namespace KvMarkup.Completion

open KvMarkup.Outline KvMarkup.Text

/-- What is being typed. -/
inductive Context where
  | widgetName
  | classDefinition
  | propertyValue
  | nothing
deriving DecidableEq

def Context.name : Context → String
  | .widgetName => "widget_name"
  | .classDefinition => "class_definition"
  | .propertyValue => "property_value"
  | .nothing => "none"

def contextOf (before : Line) : Context :=
  let text := trimStart before
  if !text.contains ':' then .widgetName
  else if text.contains '<' && !text.contains '>' then .classDefinition
  else if text.getLast? != some ':' then .propertyValue
  else .nothing

/-- What a candidate is. -/
inductive CandidateKind where
  | typeName
  | value
  | constant
  | snippet
deriving DecidableEq

def CandidateKind.code : CandidateKind → Int
  | .typeName => 5
  | .value => 13
  | .constant => 14
  | .snippet => 27

structure Candidate where
  label : String
  kind : CandidateKind
  detail : String
  documentation : Option String
  insertText : String
  isSnippet : Bool
deriving DecidableEq

def Candidate.wire (c : Candidate) : Data :=
  record
    ([("label", .str c.label), ("kind", .int c.kind.code), ("detail", .str c.detail)] ++
      (c.documentation.map fun d => ("documentation", Data.str d)).toList ++
      [("insertText", .str c.insertText),
       ("insertTextFormat", .int (if c.isSnippet then 2 else 1))])

end KvMarkup.Completion

import KvMarkup.Text.Quoted

/-!
# Why a YAML text cannot be loaded

Most errors are those of the text: a place where no token can stand, a document that is put together
wrongly, a tag without a meaning.  A `Misfit` is another matter: the text is in order, but a scalar
is not a value of the kind that its tag names, or an escape names a character that there is not.
-/

namespace KvMarkup.Yaml

/-- Why a scalar is not a value of its kind. -/
inductive Misfit where
  /-- A text that is no number, or one with too many digits. -/
  | number
  | noDigits
  /-- A part of a number in base sixty, or the code of a character, beyond every bound. -/
  | tooLarge
  /-- A word that is not a truth value. -/
  | truth (word : String)
  | notADate
  /-- A date that is in no calendar. -/
  | calendar
  | mappingAsDate
  | codePoint
  /-- Sequences and mappings nested too deeply, or a mapping whose default value leads back to
  itself. -/
  | tooDeep
deriving DecidableEq

def Misfit.message : Misfit → String
  | .number => "found a text that is not a number"
  | .noDigits => "found a number without digits"
  | .tooLarge => "found a number that is too large"
  | .truth word => Text.quote word
  | .notADate => "found a text that is not a date"
  | .calendar => "found a date that is in no calendar"
  | .mappingAsDate => "found a mapping in the place of a date"
  | .codePoint => "found the code of no character"
  | .tooDeep => "found nodes that are nested too deeply"

/-- Why a text is not a YAML document that can be loaded. -/
inductive Error where
  | character
  /-- A place where no token can begin, or a token that is not well formed. -/
  | token
  | missingColon
  /-- Tokens in an order that no document has. -/
  | order
  /-- An alias without an anchor, or an anchor given twice. -/
  | anchor
  /-- A tag without a meaning, or on a node that it is not for. -/
  | tag
  /-- Bytes that are not written as bytes are. -/
  | binary
  /-- Something other than mappings to be merged. -/
  | merge
  /-- A sequence or mapping as a key. -/
  | key
  | documents
  | misfit (m : Misfit)
deriving DecidableEq

def Error.message : Error → String
  | .character => "special characters are not allowed"
  | .token => "found characters that cannot start or continue a token"
  | .missingColon => "could not find expected ':'"
  | .order => "found a token where none of its kind is allowed"
  | .anchor => "found an undefined alias or a duplicate anchor"
  | .tag => "could not determine the value for a tag"
  | .binary => "failed to decode base64 data"
  | .merge => "expected a mapping or list of mappings for merging"
  | .key => "found unhashable key"
  | .documents => "expected a single document in the stream"
  | .misfit m => m.message

end KvMarkup.Yaml

import KvMarkup.Data.Show

/-!
# Names and lines in the outline

What the outline has to know of a name, and what of a line.  Texts and integers are the names and
lines of a well-typed document; decoded data serve as both, where the document came as JSON.
-/

namespace KvMarkup.Outline

/-- What the outline has to know of a name. -/
class Label (ν : Type) where
  ofText : String → ν
  text? : ν → Option String
  /-- The name as it is shown inside a longer label. -/
  shown : ν → String
  /-- The number of columns that the name takes. -/
  width : ν → Nat
  /-- A name that says something. -/
  isPresent : ν → Bool

instance : Label String where
  ofText s := s
  text? s := some s
  shown s := s
  width s := s.length
  isPresent s := s != ""

/-- The number of parts of a value; none when it has no parts. -/
def partCount? : Data → Option Nat
  | .str s => some s.length
  | .list items => some items.length
  | .map entries => some entries.length
  | _ => none

instance : Label Data where
  ofText s := .str s
  text? d := d.text?
  shown d := d.shown
  width d := (partCount? d).getD 0
  isPresent d := d.isTruthy

/-- What the outline has to know of a line: which one comes first. -/
class LineOrder (ℓ : Type) where
  le : ℓ → ℓ → Bool

instance : LineOrder Int where
  le a b := decide (a ≤ b)

instance : LineOrder Data where
  le a b := (a.le? b).getD true

end KvMarkup.Outline

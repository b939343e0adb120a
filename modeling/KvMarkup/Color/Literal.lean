import KvMarkup.Number.Binary64
import KvMarkup.Outline.Reading
import KvMarkup.Text.Digit
import KvMarkup.Text.Lines

/-!
# Colour literals

A colour is written as numbers between commas, bare or in round or square brackets, or as six or
eight hexadecimal digits after a `#`.  A number is the longest decimal that a part begins with;
components are clamped to the interval from zero to one.

Components are exact rational numbers.  Where the values of decimals and of quotients are rounded is
a parameter: `exact` does not round, and `double` rounds to double precision.

An unchecked outline is read only as far as it matters: no names are used, and of the lines only
those of the properties that hold a colour (`typed`).
-/

namespace KvMarkup.Color

open KvMarkup.Text KvMarkup.Number KvMarkup.Outline

structure Rgba (α : Type) where
  red : α
  green : α
  blue : α
  alpha : α
deriving DecidableEq

def Rgba.map (f : α → β) (c : Rgba α) : Rgba β := ⟨f c.red, f c.green, f c.blue, f c.alpha⟩

/-- How decimals and results of arithmetic are rounded. -/
structure Rounding where
  decimal : Decimal → Rat
  rational : Rat → Rat

/-- Arithmetic without rounding. -/
def exact : Rounding := ⟨Decimal.toRat, id⟩

/-- Double precision; an overflow stands for a power of two out of its range. -/
def double : Rounding where
  decimal d :=
    (Binary64.ofDecimal d).toRat?.getD
      (if d.negative then -((Nat.pow 2 1024 : Nat) : Rat) else ((Nat.pow 2 1024 : Nat) : Rat))
  rational r := (Binary64.ofRat r).toRat?.getD r

/-- The nearest number from zero to one. -/
def clamp (r : Rat) : Rat := if r < 0 then 0 else if 1 < r then 1 else r

/-! ## Numbers between commas -/

/-- The exponent that a text begins with, if it begins with one. -/
def leadingExponent (cs : List Char) : Int :=
  match cs with
  | e :: rest =>
    if e == 'e' || e == 'E' then
      match rest with
      | '-' :: ds => -(digitsValue (ds.takeWhile isDigit) : Int)
      | '+' :: ds => digitsValue (ds.takeWhile isDigit)
      | ds => digitsValue (ds.takeWhile isDigit)
    else 0
  | [] => 0

def leadingUnsigned? (negative : Bool) (cs : List Char) : Option Decimal :=
  let whole := cs.takeWhile isDigit
  let afterWhole := cs.dropWhile isDigit
  let (fraction, rest) := match afterWhole with
    | '.' :: more => (more.takeWhile isDigit, more.dropWhile isDigit)
    | other => ([], other)
  if whole.isEmpty && fraction.isEmpty then none
  else some ⟨negative, digitsValue (whole ++ fraction), leadingExponent rest - fraction.length⟩

/-- The decimal that a text begins with, white space in front of it aside. -/
def leadingDecimal? (cs : List Char) : Option Decimal :=
  match trim cs with
  | '-' :: rest => leadingUnsigned? true rest
  | '+' :: rest => leadingUnsigned? false rest
  | rest => leadingUnsigned? false rest

def ofParts (rounding : Rounding) (cs : List Char) : Option (Rgba Rat) := do
  let decimals ← (cs.splitOn ',').mapM leadingDecimal?
  let component (d : Decimal) : Rat := clamp (rounding.decimal d)
  match decimals with
  | r :: g :: b :: [] => some ⟨component r, component g, component b, 1⟩
  | r :: g :: b :: a :: _ => some ⟨component r, component g, component b, component a⟩
  | _ => none

/-- The text between brackets: a first one, a last one and at least one character between them, none
of which is a line feed. -/
def bracketed? (cs : List Char) : Option (List Char) :=
  match cs with
  | c :: rest =>
    match rest.getLast? with
    | some d =>
      let inner := rest.dropLast
      if (c == '(' || c == '[') && (d == ')' || d == ']') && !inner.isEmpty && !inner.contains '\n'
      then some inner else none
    | none => none
  | [] => none

/-! ## Hexadecimal digits -/

def hexDigit? (c : Char) : Option Nat :=
  if '0' ≤ c && c ≤ '9' then some (c.toNat - 48)
  else if 'a' ≤ c && c ≤ 'f' then some (c.toNat - 87)
  else if 'A' ≤ c && c ≤ 'F' then some (c.toNat - 55)
  else none

/-- The values of pairs of digits. -/
def pairs : List Nat → List Nat
  | a :: b :: rest => (16 * a + b) :: pairs rest
  | _ => []

def isQuoteMark (c : Char) : Bool := c == '\'' || c == '"'

def dropOpeningQuote (cs : List Char) : List Char :=
  match cs with
  | c :: rest => if isQuoteMark c then rest else cs
  | [] => []

def dropClosingQuote (cs : List Char) : List Char :=
  match cs.getLast? with
  | some c => if isQuoteMark c then cs.dropLast else cs
  | none => cs

/-- The colour of six or eight hexadecimal digits after a `#`, in quotes or not. -/
def ofHex? (rounding : Rounding) (cs : List Char) : Option (Rgba Rat) :=
  match dropOpeningQuote cs with
  | '#' :: rest => do
    let digits ← (dropClosingQuote rest).mapM hexDigit?
    let channel (n : Nat) : Rat := rounding.rational ((n : Rat) / 255)
    match pairs digits, digits.length with
    | [r, g, b], 6 => some ⟨channel r, channel g, channel b, 1⟩
    | [r, g, b, a], 8 => some ⟨channel r, channel g, channel b, channel a⟩
    | _, _ => none
  | _ => none

/-! ## Literals -/

/-- The colour that a text is a literal of. -/
def parse? (rounding : Rounding) (text : List Char) : Option (Rgba Rat) :=
  let cs := trim text
  let parts :=
    match bracketed? cs with
    | some inner => ofParts rounding inner
    | none => if cs.contains ',' then ofParts rounding cs else none
  match parts with
  | some c => some c
  | none => ofHex? rounding cs

/-! ## Literals in a document -/

/-- A colour literal on a line, counted from zero, between two characters. -/
structure Swatch where
  line : Int
  start : Nat
  stop : Nat
  color : Rgba Rat

/-- Details of properties that hold a colour. -/
def colorDetails : List String := ["ColorProperty", "color"]

/-- A node that is a property with a colour. -/
def holdsColor (kind : Kind) (detail : Option String) : Bool :=
  kind == .property && detail.any colorDetails.contains

/-- The colour literal behind the first colon of a line. -/
def swatchOn? (rounding : Rounding) (ls : List Line) (line : Int) : Option Swatch :=
  if line < 1 then none
  else do
    let l ← ls[(line - 1).toNat]?
    if !l.contains ':' then none
    else
      let colon := (l.takeWhile (· != ':')).length
      let raw := l.drop (colon + 1)
      let value := trimStart raw
      let color ← parse? rounding value
      let start := colon + 1 + (raw.length - value.length)
      some ⟨line - 1, start, start + (trimEnd value).length, color⟩

mutual
/-- The colour literals of a node and of what is below it. -/
def swatchesOf (rounding : Rounding) (ls : List Line) : Node String Int → List Swatch
  | ⟨_, kind, range, _, detail, children⟩ =>
    (if holdsColor kind detail then (swatchOn? rounding ls range.start.line).toList else []) ++
      swatchesBelow rounding ls children
termination_by structural n => n

def swatchesBelow (rounding : Rounding) (ls : List Line) : List (Node String Int) → List Swatch
  | [] => []
  | n :: ns => swatchesOf rounding ls n ++ swatchesBelow rounding ls ns
termination_by structural ns => ns
end

/-- The colour literals of the properties below top-level nodes, in depth-first order. -/
def swatches (rounding : Rounding) (symbols : List (Node String Int)) (text : String) :
    List Swatch :=
  symbols.flatMap fun s => swatchesBelow rounding (lines text) s.children

/-! ## Unchecked outlines -/

mutual
/-- What the colour literals use of a node. -/
def typed (count : Nat) : UncheckedNode → Except Fault (Node String Int)
  | ⟨_, kind, range, _, detail, children⟩ => do
    let line ← if holdsColor kind detail then readLine count range.start.line else .ok 0
    let children ← typedAll count children
    .ok ⟨"", kind, Span.onLine line 1 0, Span.onLine 0 1 0, detail, children⟩
termination_by structural n => n

def typedAll (count : Nat) : List UncheckedNode → Except Fault (List (Node String Int))
  | [] => .ok []
  | n :: ns => do
    let n ← typed count n
    let ns ← typedAll count ns
    .ok (n :: ns)
termination_by structural ns => ns
end

/-- The colour literals below top-level nodes of an unchecked outline. -/
def uncheckedSwatches (rounding : Rounding) (symbols : List UncheckedNode) (text : String) :
    Except Fault (List Swatch) := do
  let ls := lines text
  let below ← symbols.mapM fun s => typedAll ls.length s.children
  .ok (below.flatMap (swatchesBelow rounding ls))

end KvMarkup.Color

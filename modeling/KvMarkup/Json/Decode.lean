import KvMarkup.Data.Basic
import KvMarkup.Number.Integer

/-!
# Reading JSON

`Json.decode` reads one JSON value with white space around it.  A text that is none is refused with
the reason and the position at which it was noticed; the position is shown as a line, a column and
an offset.  The words `NaN`, `Infinity` and `-Infinity` are read as numbers.

Nesting is followed by recursion on fuel; every step takes at least one character, so the length of
the text is fuel enough.  There is no limit to it here, as an interpreter with a bounded stack has
one.  Texts consist of characters, so an escape for half of a surrogate pair that stands alone is
read as U+FFFD.
-/

namespace KvMarkup.Json

open KvMarkup.Number KvMarkup.Text

/-- Why a text is not JSON. -/
inductive Reason where
  | expectingValue
  | expectingName
  | expectingColon
  | expectingComma
  | extraData
  | unterminated
  | controlCharacter
  | badEscape
  | badCodeEscape
  | byteOrderMark
  | numberTooLong
deriving DecidableEq

def Reason.message : Reason → String
  | .expectingValue => "Expecting value"
  | .expectingName => "Expecting property name enclosed in double quotes"
  | .expectingColon => "Expecting ':' delimiter"
  | .expectingComma => "Expecting ',' delimiter"
  | .extraData => "Extra data"
  | .unterminated => "Unterminated string starting at"
  | .controlCharacter => "Invalid control character at"
  | .badEscape => "Invalid \\escape"
  | .badCodeEscape => "Invalid \\uXXXX escape"
  | .byteOrderMark => "Unexpected UTF-8 BOM (decode using utf-8-sig)"
  | .numberTooLong => "Exceeds the limit for integer string conversion"

/-- A refusal: the reason and the offset where it was noticed. -/
structure Error where
  reason : Reason
  offset : Nat
deriving DecidableEq

/-- The reason with the line, the column and the offset in the text that was read. -/
def Error.message (e : Error) (text : List Char) : String :=
  let before := text.take e.offset
  let line := before.count '\n' + 1
  let column := (before.reverse.takeWhile (· != '\n')).length + 1
  e.reason.message ++ ": line " ++ showInt line ++ " column " ++ showInt column ++
    " (char " ++ showInt e.offset ++ ")"

/-- What is still to be read, with its offset. -/
structure Rest where
  chars : List Char
  offset : Nat

def Rest.advance (r : Rest) (n : Nat) : Rest := ⟨r.chars.drop n, r.offset + n⟩

/-- A refusal at the beginning of the rest. -/
def Rest.fail (r : Rest) (reason : Reason) : Except Error α := .error ⟨reason, r.offset⟩

def isJsonSpace (c : Char) : Bool := c == ' ' || c == '\t' || c == '\n' || c == '\r'

def Rest.skipSpace (r : Rest) : Rest := r.advance (r.chars.takeWhile isJsonSpace).length

def hexCode? (cs : List Char) : Option Nat :=
  cs.foldl (fun acc c => do
    let n ← acc
    let d ← hexValue? c
    some (n * 16 + d)) (some 0)
where
  /-- The value of one hexadecimal digit. -/
  hexValue? (c : Char) : Option Nat :=
    if '0' ≤ c && c ≤ '9' then some (c.toNat - 48)
    else if 'a' ≤ c && c ≤ 'f' then some (c.toNat - 87)
    else if 'A' ≤ c && c ≤ 'F' then some (c.toNat - 55)
    else none

def shortEscape? (c : Char) : Option Char :=
  match c with
  | '"' => some '"'
  | '\\' => some '\\'
  | '/' => some '/'
  | 'b' => some '\x08'
  | 'f' => some '\x0c'
  | 'n' => some '\n'
  | 'r' => some '\r'
  | 't' => some '\t'
  | _ => none

/-- The character with a code; a lone half of a surrogate pair is shown as U+FFFD. -/
def codeChar (n : Nat) : Char := if 0xD800 ≤ n && n ≤ 0xDFFF then '\uFFFD' else Char.ofNat n

/-- Reads the code after a backslash and a `u`; `r` begins at the `u`.  Two halves of a surrogate
pair make one character. -/
def codeEscape (r : Rest) : Except Error (Char × Rest) :=
  let digits := (r.chars.drop 1).take 4
  if (r.chars.drop 5).isEmpty then r.fail .badCodeEscape
  else
    match hexCode? digits with
    | none => r.fail .badCodeEscape
    | some high =>
      let after := r.advance 5
      match after.chars with
      | '\\' :: 'u' :: more =>
        if 0xD800 ≤ high && high ≤ 0xDBFF && !(more.drop 4).isEmpty then
          match hexCode? (more.take 4) with
          | none => (after.advance 1).fail .badCodeEscape
          | some low =>
            if 0xDC00 ≤ low && low ≤ 0xDFFF then
              .ok (Char.ofNat (0x10000 + (high - 0xD800) * 0x400 + (low - 0xDC00)), after.advance 6)
            else .ok (codeChar high, after)
        else .ok (codeChar high, after)
      | _ => .ok (codeChar high, after)

/-- Reads the characters of a text up to its closing quote; `start` is the offset of the opening
one. -/
def stringBody (start : Nat) : Nat → Rest → List Char → Except Error (List Char × Rest)
  | 0, _, _ => .error ⟨.unterminated, start⟩
  | fuel + 1, r, done =>
    match r.chars with
    | [] => .error ⟨.unterminated, start⟩
    | '"' :: _ => .ok (done.reverse, r.advance 1)
    | '\\' :: [] => .error ⟨.unterminated, start⟩
    | '\\' :: 'u' :: _ => do
      let (c, after) ← codeEscape (r.advance 1)
      stringBody start fuel after (c :: done)
    | '\\' :: c :: _ =>
      match shortEscape? c with
      | some d => stringBody start fuel (r.advance 2) (d :: done)
      | none => r.fail .badEscape
    | c :: _ =>
      if c.toNat < 0x20 then r.fail .controlCharacter
      else stringBody start fuel (r.advance 1) (c :: done)

/-- Reads a text; the rest begins at its opening quote. -/
def string (r : Rest) : Except Error (String × Rest) := do
  let (cs, after) ← stringBody r.offset (r.chars.length + 1) (r.advance 1) []
  .ok (String.ofList cs, after)

def isJsonDigit (c : Char) : Bool := '0' ≤ c && c ≤ '9'

/-- The digits of the whole part: a single zero, or digits that do not begin with one. -/
def wholePart (cs : List Char) : List Char :=
  match cs with
  | '0' :: _ => ['0']
  | _ => cs.takeWhile isJsonDigit

/-- The digits after a point, with the rest, when there are any. -/
def fractionPart (cs : List Char) : List Char :=
  match cs with
  | '.' :: more => more.takeWhile isJsonDigit
  | _ => []

/-- The exponent's sign and digits and its length, when there is one. -/
def exponentPart (cs : List Char) : Option (Bool × List Char × Nat) :=
  match cs with
  | e :: more =>
    if e == 'e' || e == 'E' then
      let (negative, signLength, digits) := match more with
        | '-' :: ds => (true, 1, ds.takeWhile isJsonDigit)
        | '+' :: ds => (false, 1, ds.takeWhile isJsonDigit)
        | ds => (false, 0, ds.takeWhile isJsonDigit)
      if digits.isEmpty then none else some (negative, digits, 1 + signLength + digits.length)
    else none
  | [] => none

/-- Reads a number: an integer, or a floating point number when it has a fraction or an exponent. -/
def number (r : Rest) : Except Error (Data × Rest) :=
  let (negative, unsigned) := match r.chars with
    | '-' :: cs => (true, cs)
    | cs => (false, cs)
  let signLength := if negative then 1 else 0
  let whole := wholePart unsigned
  if whole.isEmpty then r.fail .expectingValue
  else
    let afterWhole := unsigned.drop whole.length
    let fraction := fractionPart afterWhole
    let fractionLength := if fraction.isEmpty then 0 else fraction.length + 1
    let afterFraction := afterWhole.drop fractionLength
    let exponent := exponentPart afterFraction
    match fraction.isEmpty, exponent with
    | true, none =>
      if whole.length > maxDigits then r.fail .numberTooLong
      else
        let n : Int := digitsValue whole
        .ok (.int (if negative then -n else n), r.advance (signLength + whole.length))
    | _, _ =>
      let (shift, exponentLength) : Int × Nat := match exponent with
        | some (true, ds, n) => (-(digitsValue ds : Int), n)
        | some (false, ds, n) => ((digitsValue ds : Int), n)
        | none => (0, 0)
      let decimal : Decimal :=
        ⟨negative, digitsValue (whole ++ fraction), shift - fraction.length⟩
      .ok (.float (Binary64.ofDecimal decimal),
        r.advance (signLength + whole.length + fractionLength + exponentLength))

/-- The words that are values. -/
def words : List (List Char × Data) :=
  [("null".toList, .null), ("true".toList, .bool true), ("false".toList, .bool false),
   ("NaN".toList, .float Binary64.notANumber),
   ("Infinity".toList, .float (Binary64.infinity false)),
   ("-Infinity".toList, .float (Binary64.infinity true))]

/-- Reads a value that has no parts. -/
def scalar (r : Rest) : Except Error (Data × Rest) :=
  match words.find? (fun w => w.1.isPrefixOf r.chars) with
  | some (word, value) => .ok (value, r.advance word.length)
  | none =>
    match r.chars with
    | '"' :: _ => (string r).map fun (s, after) => (.str s, after)
    | _ => number r

mutual
/-- Reads a value; the rest begins at it. -/
def value : Nat → Rest → Except Error (Data × Rest)
  | 0, r => r.fail .expectingValue
  | fuel + 1, r =>
    match r.chars with
    | '[' :: _ =>
      let inner := (r.advance 1).skipSpace
      match inner.chars with
      | ']' :: _ => .ok (.list [], inner.advance 1)
      | _ => items fuel inner []
    | '\x7b' :: _ =>
      let inner := (r.advance 1).skipSpace
      match inner.chars with
      | '\x7d' :: _ => .ok (.map [], inner.advance 1)
      | _ => entries fuel inner []
    | _ => scalar r
/-- Reads the items of a sequence up to its closing bracket. -/
def items : Nat → Rest → List Data → Except Error (Data × Rest)
  | 0, r, _ => r.fail .expectingValue
  | fuel + 1, r, done => do
    let (v, after) ← value fuel r
    let after := after.skipSpace
    match after.chars with
    | ']' :: _ => .ok (.list (v :: done).reverse, after.advance 1)
    | ',' :: _ => items fuel (after.advance 1).skipSpace (v :: done)
    | _ => after.fail .expectingComma
/-- Reads the entries of a mapping up to its closing brace. -/
def entries : Nat → Rest → List (Data × Data) → Except Error (Data × Rest)
  | 0, r, _ => r.fail .expectingName
  | fuel + 1, r, done =>
    match r.chars with
    | '"' :: _ => do
      let (key, after) ← string r
      let after := after.skipSpace
      match after.chars with
      | ':' :: _ => do
        let (v, after) ← value fuel (after.advance 1).skipSpace
        let after := after.skipSpace
        let done := Data.put done (.str key) v
        match after.chars with
        | '\x7d' :: _ => .ok (.map done, after.advance 1)
        | ',' :: _ => entries fuel (after.advance 1).skipSpace done
        | _ => after.fail .expectingComma
      | _ => after.fail .expectingColon
    | _ => r.fail .expectingName
end

/-- The value that a text is in JSON. -/
def decode (text : List Char) : Except Error Data :=
  match text with
  | '\uFEFF' :: _ => .error ⟨.byteOrderMark, 0⟩
  | _ => do
    let (v, after) ← value (2 * text.length + 2) (Rest.skipSpace ⟨text, 0⟩)
    let after := after.skipSpace
    if after.chars.isEmpty then .ok v else after.fail .extraData

end KvMarkup.Json

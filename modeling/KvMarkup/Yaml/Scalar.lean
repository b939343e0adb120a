import KvMarkup.Data.Basic
import KvMarkup.Number.Floating
import KvMarkup.Text.Lowercase
import KvMarkup.Yaml.Error
import KvMarkup.Yaml.Form

/-!
# The values of YAML scalars

The tag of a scalar says what its text is read as.  The text need not have the form of the tag,
since a tag can be given to any text: `!!float 1e3` is a number, and `!!int abc` is a misfit.

Bytes are written as text: four characters of an alphabet of sixty-four stand for three bytes.  A
last group of two or three characters is filled up with `=`; what follows it is not looked at.
Characters outside the alphabet are passed over wherever they stand, and so is a `=` where no group
can end.
-/

namespace KvMarkup.Text

/-- The six bits of a character of the alphabet. -/
def sixBits? (c : Char) : Option Nat :=
  if 'A' ≤ c && c ≤ 'Z' then some (c.toNat - 65)
  else if 'a' ≤ c && c ≤ 'z' then some (c.toNat - 71)
  else if '0' ≤ c && c ≤ '9' then some (c.toNat + 4)
  else if c == '+' then some 62
  else if c == '/' then some 63
  else none

/-- Decodes the rest of a text: `place` characters of the present group have been read, of which the
bits in `left` belong to no byte yet, and `fills` signs `=` have come since. -/
def decodeFrom? (place left fills : Nat) : List Char → Option (List UInt8)
  | [] => if place == 0 then some [] else none
  | '=' :: cs =>
    if place ≥ 2 && place + fills + 1 ≥ 4 then some []
    else decodeFrom? place left (if place ≥ 2 then fills + 1 else fills) cs
  | c :: cs =>
    match sixBits? c with
    | none => decodeFrom? place left fills cs
    | some bits =>
      match place with
      | 0 => decodeFrom? 1 bits 0 cs
      | 1 => (decodeFrom? 2 (bits % 16) 0 cs).map (UInt8.ofNat (left * 4 + bits / 16) :: ·)
      | 2 => (decodeFrom? 3 (bits % 4) 0 cs).map (UInt8.ofNat (left * 16 + bits / 4) :: ·)
      | _ => (decodeFrom? 0 0 0 cs).map (UInt8.ofNat (left * 64 + bits) :: ·)

/-- The bytes that a text stands for; `none` when its last group is not complete. -/
def base64? (cs : List Char) : Option (List UInt8) := decodeFrom? 0 0 0 cs

end KvMarkup.Text

namespace KvMarkup.Yaml

open KvMarkup.Number KvMarkup.Text

/-- Without underscores. -/
def ungroup (cs : List Char) : List Char := cs.filter (· != '_')

/-- The value of a text that has to be a number. -/
def orNumber (value : Option α) : Except Misfit α :=
  match value with
  | some a => .ok a
  | none => .error .number

/-- The number of digits in base sixty, the highest first. -/
def inSixties (digits : List Int) : Int := digits.foldl (fun n d => n * 60 + d) 0

/-- A whole number without its sign. -/
def magnitude (cs : List Char) : Except Misfit Int :=
  match cs with
  | [] => .error .noDigits
  | ['0'] => .ok 0
  | '0' :: 'b' :: rest => orNumber (Radix.binary.integer? rest)
  | '0' :: 'x' :: rest => orNumber (Radix.hexadecimal.integer? rest)
  | '0' :: _ => orNumber (Radix.octal.integer? cs)
  | _ => do
    let digits ← (cs.splitOn ':').mapM fun part => orNumber (integer? part)
    .ok (inSixties digits)

def intValue (text : List Char) : Except Misfit Int :=
  let (negative, cs) := signOf (ungroup text)
  (magnitude cs).map fun n => if negative then -n else n

/-- A floating-point number in base sixty, the highest digit first; it is rounded after each step
from the last digit on. -/
def floatInSixties (digits : List Binary64) : Except Misfit Binary64 :=
  digits.reverse.zipIdx.foldlM
    (fun total digit =>
      let weight := Binary64.ofRat ((Nat.pow 60 digit.2 : Nat) : Rat)
      if weight == Binary64.infinity false then .error .tooLarge
      else .ok (total.add (digit.1.mul weight)))
    (Binary64.signed false 0)

/-- A floating-point number without its sign.  The word `.nan` is the usual NaN; every other NaN
bears the mark given. -/
def floatMagnitude (mark : Nat) (cs : List Char) : Except Misfit Binary64 :=
  if cs == ".inf".toList then .ok (Binary64.infinity false)
  else if cs == ".nan".toList then .ok Binary64.notANumber
  else do
    let digits ← (cs.splitOn ':').mapM fun part => orNumber (floating? part)
    let x ← match digits with
      | [x] => .ok x
      | _ => floatInSixties digits
    .ok (if x.form == .nan then Binary64.markedNaN mark else x)

def floatValue (mark : Nat) (text : List Char) : Except Misfit Binary64 :=
  if (ungroup text).isEmpty then .error .noDigits
  else do
    let (negative, cs) := signOf (ungroup text)
    let x ← floatMagnitude mark (cs.map Char.toLower)
    .ok (if negative && x.form != .nan then x.negate else x)

def truths : List (String × Bool) :=
  [("yes", true), ("no", false), ("true", true), ("false", false), ("on", true), ("off", false)]

/-- The truth value that a text is, in letters of either case. -/
def truthValue (text : List Char) : Except Misfit Bool :=
  let word := lowercase (String.ofList text)
  match truths.lookup word with
  | some b => .ok b
  | none => .error (.truth word)

/-- The date, or the date with a time of day, that a text is. -/
def momentValue (text : List Char) : Except Misfit Moment :=
  match moment? (dropFinalBreak text) with
  | none => .error .notADate
  | some m =>
    if m.isValid && ((m.clock.bind (·.offset)).all fun o => o.natAbs < 1440) then .ok m
    else .error .calendar

/-- The bytes that a text stands for. -/
def bytesValue (text : List Char) : Except Error (List UInt8) :=
  match if text.all fun c => c.toNat < 128 then base64? text else none with
  | some bytes => .ok bytes
  | none => .error .binary

/-- The value of a text under a tag; `mark` tells apart what is equal to itself only. -/
def Tag.read (tag : Tag) (mark : Nat) (text : List Char) : Except Error Data :=
  match tag with
  | .null => .ok .null
  | .bool => ((truthValue text).map .bool).mapError .misfit
  | .int => ((intValue text).map .int).mapError .misfit
  | .float => ((floatValue mark text).map .float).mapError .misfit
  | .timestamp => ((momentValue text).map .moment).mapError .misfit
  | .binary => (bytesValue text).map .bytes
  | .str => .ok (.str (String.ofList text))
  | _ => .error .tag

end KvMarkup.Yaml

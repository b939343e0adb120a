import KvMarkup.Text.Digit
import KvMarkup.Text.Space

/-!
# Reading whole numbers

A whole number is written with an optional sign and decimal digits of any script; single underscores
may stand between digits, and white space around the whole is ignored.  Texts of more than
`maxDigits` digits are refused.

A whole number in base two, eight or sixteen has no underscores and may have any length; its base
may be announced by a zero and a letter, as in `0x1f`.
-/

namespace KvMarkup.Number

open KvMarkup.Text

/-- The longest run of digits that is read as a number. -/
def maxDigits : Nat := 4300

/-- Digits with single underscores between them; `afterDigit` tells whether a digit came just
before. -/
def groupedDigits? (afterDigit : Bool) : List Char → Option (List Char)
  | [] => if afterDigit then some [] else none
  | c :: cs =>
    if c == '_' then
      if afterDigit then groupedDigits? false cs else none
    else if isDigit c then (groupedDigits? true cs).map (c :: ·)
    else none

/-- The value of digits with single underscores between them. -/
def natural? (cs : List Char) : Option Nat := do
  let digits ← groupedDigits? false cs
  if digits.length > maxDigits then none else some (digitsValue digits)

/-- White space that may stand around a number; the four separators of files, groups, records and
units may not. -/
def isSpaceAround (c : Char) : Bool := isSpace c && !('\x1c' ≤ c && c ≤ '\x1f')

/-- A text without the white space around a number. -/
def trimAround (text : List Char) : List Char :=
  ((text.dropWhile isSpaceAround).reverse.dropWhile isSpaceAround).reverse

/-- The whole number that a text is, if it is one. -/
def integer? (text : List Char) : Option Int :=
  match trimAround text with
  | '-' :: cs => (natural? cs).map fun n => -(n : Int)
  | '+' :: cs => (natural? cs).map fun n => (n : Int)
  | cs => (natural? cs).map fun n => (n : Int)

/-! ## Other bases -/

/-- A base with the letter that announces it behind a zero. -/
structure Radix where
  base : Nat
  letter : Char

def Radix.binary : Radix := ⟨2, 'b'⟩

def Radix.octal : Radix := ⟨8, 'o'⟩

def Radix.hexadecimal : Radix := ⟨16, 'x'⟩

namespace Radix

/-- The value of a digit: a decimal digit of any script, or a letter from `a` on. -/
def digit? (r : Radix) (c : Char) : Option Nat :=
  let value :=
    match digitValue? c with
    | some d => some d
    | none =>
      if 'a' ≤ c && c ≤ 'f' then some (c.toNat - 87)
      else if 'A' ≤ c && c ≤ 'F' then some (c.toNat - 55)
      else none
  value.filter (· < r.base)

def digits? (r : Radix) (cs : List Char) : Option Nat :=
  if cs.isEmpty then none
  else cs.foldlM (fun n c => (r.digit? c).map fun d => n * r.base + d) 0

/-- The value of digits, whose base may be announced in front of them. -/
def natural? (r : Radix) (cs : List Char) : Option Nat :=
  match cs with
  | zero :: letter :: rest =>
    if digitValue? zero == some 0 && letter.toLower == r.letter then r.digits? rest
    else r.digits? cs
  | _ => r.digits? cs

/-- The whole number in this base that a text is, if it is one. -/
def integer? (r : Radix) (text : List Char) : Option Int :=
  match trimAround text with
  | '-' :: cs => (r.natural? cs).map fun n => -(n : Int)
  | '+' :: cs => (r.natural? cs).map fun n => (n : Int)
  | cs => (r.natural? cs).map fun n => (n : Int)

end Radix

/-! ## Writing -/

def showInt (n : Int) : String :=
  if n < 0 then "-" ++ String.ofList (Nat.toDigits 10 n.natAbs)
  else String.ofList (Nat.toDigits 10 n.natAbs)

end KvMarkup.Number

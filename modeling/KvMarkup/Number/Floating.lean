import KvMarkup.Number.Binary64
import KvMarkup.Number.Integer

/-!
# Reading floating-point numbers

A floating-point number is written with an optional sign, decimal digits of any script with at most
one point among them, and an optional exponent; or it is one of the words `inf`, `infinity` and
`nan`, in letters of either case.  White space around the whole is ignored.  The value is the word
nearest to the decimal, an infinity when that is too large.
-/

namespace KvMarkup.Number

open KvMarkup.Text

/-- The value of an exponent, from its mark on; a missing one is zero. -/
def exponent? (cs : List Char) : Option Int :=
  let digits? (ds : List Char) : Option Nat :=
    if !ds.isEmpty && ds.all isDigit then some (digitsValue ds) else none
  match cs with
  | [] => some 0
  | mark :: rest =>
    if mark == 'e' || mark == 'E' then
      match rest with
      | '-' :: ds => (digits? ds).map fun n => -(n : Int)
      | '+' :: ds => (digits? ds).map fun n => (n : Int)
      | ds => (digits? ds).map fun n => (n : Int)
    else none

/-- The decimal that a text without a sign is, if it is one. -/
def decimal? (negative : Bool) (cs : List Char) : Option Decimal := do
  let whole := cs.takeWhile isDigit
  let (fraction, rest) := match cs.dropWhile isDigit with
    | '.' :: more => (more.takeWhile isDigit, more.dropWhile isDigit)
    | other => ([], other)
  if whole.isEmpty && fraction.isEmpty then none
  else
    let e ← exponent? rest
    some ⟨negative, digitsValue (whole ++ fraction), e - fraction.length⟩

/-- The word that a text without a sign stands for, if it stands for one. -/
def unsigned? (negative : Bool) (cs : List Char) : Option Binary64 :=
  let word := String.ofList (cs.map Char.toLower)
  if word == "inf" || word == "infinity" then some (Binary64.infinity negative)
  else if word == "nan" then some Binary64.notANumber
  else (decimal? negative cs).map Binary64.ofDecimal

def floating? (text : List Char) : Option Binary64 :=
  match trimAround text with
  | '-' :: cs => unsigned? true cs
  | '+' :: cs => unsigned? false cs
  | cs => unsigned? false cs

end KvMarkup.Number

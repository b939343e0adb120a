/-!
# Binary floating point

A `Binary64` is a word of the double-precision format.  `form` reads its fields and `toRat?` its
exact value; `ofRatio` and `ofDecimal` give the nearest word to an exact quotient or decimal, a tie
going to the even significand, and an infinity when the magnitude is too large.  All arithmetic is
exact arithmetic of whole numbers; no machine floating point is involved.  Powers are written
`Nat.pow`, so that they are those of whole numbers whatever else is in scope.
-/

namespace KvMarkup.Number

structure Binary64 where
  bits : UInt64
deriving DecidableEq, Inhabited

/-- What a word stands for; a finite one is `± significand * 2 ^ exponent`. -/
inductive Binary64.Form where
  | nan
  | infinite (negative : Bool)
  | finite (negative : Bool) (significand : Nat) (exponent : Int)
deriving DecidableEq

/-- A decimal `± digits * 10 ^ exponent`. -/
structure Decimal where
  negative : Bool
  digits : Nat
  exponent : Int
deriving DecidableEq

/-- The exact value of a decimal. -/
def Decimal.toRat (d : Decimal) : Rat :=
  let magnitude : Rat :=
    if d.exponent < 0 then (d.digits : Rat) / ((Nat.pow 10 d.exponent.natAbs : Nat) : Rat)
    else ((d.digits * Nat.pow 10 d.exponent.natAbs : Nat) : Rat)
  if d.negative then -magnitude else magnitude

/-- The quotient rounded to the nearest whole number, a tie to the even one. -/
def roundHalfEven (num den : Nat) : Nat :=
  let q := num / den
  let r := num % den
  if 2 * r > den || (2 * r == den && q % 2 == 1) then q + 1 else q

/-- The quotient rounded to the nearest whole number, a tie upwards. -/
def roundHalfUp (num den : Nat) : Nat := (2 * num + den) / (2 * den)

namespace Binary64

/-- The sign, exponent and fraction fields, read as a value. -/
def form (x : Binary64) : Form :=
  let word := x.bits.toNat
  let negative := word ≥ Nat.pow 2 63
  let exponent : Nat := word / Nat.pow 2 52 % Nat.pow 2 11
  let fraction : Nat := word % Nat.pow 2 52
  if exponent == 2047 then
    if fraction == 0 then .infinite negative else .nan
  else if exponent == 0 then .finite negative fraction (-1074)
  else .finite negative (Nat.pow 2 52 + fraction) ((exponent : Int) - 1075)

/-- A word with the sign and the magnitude bits given. -/
def signed (negative : Bool) (magnitude : Nat) : Binary64 :=
  ⟨UInt64.ofNat (if negative then Nat.pow 2 63 + magnitude else magnitude)⟩

def infinity (negative : Bool) : Binary64 := signed negative (2047 * Nat.pow 2 52)

/-- A word that is not a number; there is one for each mark. -/
def markedNaN (mark : Nat) : Binary64 :=
  signed false (2047 * Nat.pow 2 52 + Nat.pow 2 51 + mark % Nat.pow 2 51)

/-- The usual word that is not a number. -/
def notANumber : Binary64 := markedNaN 0

/-- Numerator and denominator of `num / den` divided by `2 ^ e`. -/
def scaled (num den : Nat) (e : Int) : Nat × Nat :=
  if e < 0 then (num * Nat.pow 2 e.natAbs, den) else (num, den * Nat.pow 2 e.natAbs)

/-- The exponent at which the quotient has a significand of 53 bits, or the least exponent. -/
def exponentFor (num den : Nat) : Int :=
  let guess := max ((num.log2 : Int) - den.log2 - 53) (-1074)
  let (n, d) := scaled num den guess
  if n / d ≥ Nat.pow 2 53 then guess + 1 else guess

/-- The word nearest to `± num / den`. -/
def ofRatio (negative : Bool) (num den : Nat) : Binary64 :=
  if num == 0 || den == 0 then signed negative 0
  else
    let e := exponentFor num den
    if e + 1075 ≥ 2047 then infinity negative
    else
      let (n, d) := scaled num den e
      let q := roundHalfEven n d
      if q < Nat.pow 2 52 then signed negative q
      else signed negative ((e + 1075).toNat * Nat.pow 2 52 + (q - Nat.pow 2 52))

def ofRat (r : Rat) : Binary64 := ofRatio (r.num < 0) r.num.natAbs r.den

/-- The word nearest to a decimal; exponents far outside the format are answered without scaling. -/
def ofDecimal (d : Decimal) : Binary64 :=
  if d.digits == 0 then signed d.negative 0
  else
    let places := ((Nat.toDigits 10 d.digits).length : Int) + d.exponent
    if places > 310 then infinity d.negative
    else if places < -330 then signed d.negative 0
    else if d.exponent < 0 then ofRatio d.negative d.digits (Nat.pow 10 d.exponent.natAbs)
    else ofRatio d.negative (d.digits * Nat.pow 10 d.exponent.natAbs) 1

/-- The exact value of a finite word. -/
def toRat? (x : Binary64) : Option Rat :=
  match x.form with
  | .finite negative m e =>
    let magnitude : Rat :=
      if e < 0 then (m : Rat) / ((Nat.pow 2 e.natAbs : Nat) : Rat)
      else ((m * Nat.pow 2 e.natAbs : Nat) : Rat)
    some (if negative then -magnitude else magnitude)
  | _ => none

def truncate? (x : Binary64) : Option Int :=
  match x.form with
  | .finite negative m e =>
    let magnitude : Nat := if e < 0 then m / Nat.pow 2 e.natAbs else m * Nat.pow 2 e.natAbs
    some (if negative then -(magnitude : Int) else magnitude)
  | _ => none

/-- Both zeros. -/
def isZero (x : Binary64) : Bool :=
  match x.form with
  | .finite _ m _ => m == 0
  | _ => false

/-! ## Arithmetic -/

def negate (x : Binary64) : Binary64 := ⟨x.bits ^^^ (UInt64.ofNat (Nat.pow 2 63))⟩

def mul (x y : Binary64) : Binary64 :=
  match x.form, y.form with
  | .nan, _ => notANumber
  | _, .nan => notANumber
  | .infinite s, .infinite t => infinity (s != t)
  | .infinite s, .finite t m _ => if m == 0 then notANumber else infinity (s != t)
  | .finite s m _, .infinite t => if m == 0 then notANumber else infinity (s != t)
  | .finite s m d, .finite t n e =>
    let (num, den) := scaled (m * n) 1 (-(d + e))
    ofRatio (s != t) num den

/-- The sum, rounded; a sum of zero is negative only if both parts are. -/
def add (x y : Binary64) : Binary64 :=
  match x.form, y.form with
  | .nan, _ => notANumber
  | _, .nan => notANumber
  | .infinite s, .infinite t => if s == t then infinity s else notANumber
  | .infinite s, _ => infinity s
  | _, .infinite t => infinity t
  | .finite s _ _, .finite t _ _ =>
    let sum := x.toRat?.getD 0 + y.toRat?.getD 0
    if sum == 0 then signed (s && t) 0 else ofRat sum

end Binary64

end KvMarkup.Number

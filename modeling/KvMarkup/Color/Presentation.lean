import KvMarkup.Color.Literal
import KvMarkup.Number.Integer
import KvMarkup.Text.Quoted

/-!
# Writing a colour

The ways to write a colour back on a line: as decimals with two places, bare and in brackets, and as
hexadecimal digits.  A line with `rgb:` takes three components, so alpha is one there and the forms
with four components are left out.

Components come as `Channel`s, since a host may send anything: a number that has more than 28 digits
with two places, or an infinity, cannot be written as a decimal, and a NaN has no hexadecimal
digits.
-/

namespace KvMarkup.Color

open KvMarkup.Text KvMarkup.Number

inductive Channel where
  | nan
  | infinite
  | finite (negative : Bool) (magnitude : Rat)

/-- The value of a channel with a sign and a magnitude. -/
def signedValue (negative : Bool) (magnitude : Rat) : Rat :=
  if negative then -magnitude else magnitude

def Channel.ofRat (r : Rat) : Channel := if r < 0 then .finite true (-r) else .finite false r

def Channel.ofBinary64 (x : Binary64) : Channel :=
  match x.form with
  | .nan => .nan
  | .infinite _ => .infinite
  | .finite negative _ _ =>
    match x.toRat? with
    | some r => .finite negative (if r < 0 then -r else r)
    | none => .nan

/-- Why a colour cannot be written. -/
inductive WriteError where
  | tooLong
  /-- A component without hexadecimal digits. -/
  | notANumber
deriving DecidableEq

def maxDecimalDigits : Nat := 28

/-- A component with two places, a half rounded away from zero. -/
def fixed (c : Channel) : Except WriteError String :=
  match c with
  | .nan => .ok "NaN"
  | .infinite => .error .tooLong
  | .finite negative r =>
    let hundredths := roundHalfUp (r.num.natAbs * 100) r.den
    let digits := Nat.toDigits 10 hundredths
    if digits.length > maxDecimalDigits then .error .tooLong
    else
      let padded := List.replicate (3 - digits.length) '0' ++ digits
      let whole := padded.take (padded.length - 2)
      let places := padded.drop (padded.length - 2)
      .ok (String.ofList ((if negative then ['-'] else []) ++ whole ++ '.' :: places))

/-- A component as hexadecimal digits, at least two of them, of its value on the scale to 255. -/
def hexChannel (rounding : Rounding) (c : Channel) : Except WriteError String :=
  match c with
  | .finite negative magnitude =>
    let r := signedValue negative magnitude
    let n := (rounding.rational (rounding.rational (r * 255) + 1 / 2)).floor
    if n < 0 then .ok (String.ofList ('-' :: hexDigits 1 n.natAbs))
    else .ok (String.ofList (hexDigits 2 n.natAbs))
  | _ => .error .notANumber

/-- A component below one. -/
def Channel.belowOne (c : Channel) : Bool :=
  match c with
  | .finite negative magnitude => signedValue negative magnitude < 1
  | _ => false

/-- A line whose colour has three components. -/
def isThreeComponent (line : List Char) : Bool :=
  occursIn "rgb:".toList line && !occursIn "rgba:".toList line

/-- The ways to write a colour on a line. -/
def presentations (rounding : Rounding) (color : Rgba Channel) (line : List Char) :
    Except WriteError (List String) := do
  let three := isThreeComponent line
  let alpha := if three then .finite false 1 else color.alpha
  let r ← fixed color.red
  let g ← fixed color.green
  let b ← fixed color.blue
  let a ← fixed alpha
  let rgb := r ++ ", " ++ g ++ ", " ++ b
  let rgba := rgb ++ ", " ++ a
  let decimals :=
    if three then [rgb, "(" ++ rgb ++ ")"]
    else [rgba, rgb, "(" ++ rgba ++ ")", "(" ++ rgb ++ ")"]
  let red ← hexChannel rounding color.red
  let green ← hexChannel rounding color.green
  let blue ← hexChannel rounding color.blue
  let hex := "#" ++ red ++ green ++ blue
  if !three && alpha.belowOne then do
    let last ← hexChannel rounding alpha
    .ok (decimals ++ [hex, hex ++ last])
  else .ok (decimals ++ [hex])

end KvMarkup.Color

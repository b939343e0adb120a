import KvMarkup.Number.Binary64
import KvMarkup.Number.Integer

/-!
# The shortest decimal of a floating point number

The reals that round to a finite word form an interval around its value; its ends belong to it when
the significand is even.  `shortest` looks for a decimal in that interval on the grids of one digit,
of two digits, and so on up to seventeen: the first grid with a hit wins, and of two hits the nearer
one.

`showFloat` writes that decimal: positionally when its point stands at most sixteen places after the
first digit and at most three zeros follow the point, and otherwise with an exponent of at least two
digits.
-/

namespace KvMarkup.Number

/-- A value `num / den` with the ends `lo / den`, `hi / den` of the interval that rounds to it. -/
structure RoundingInterval where
  num : Nat
  lo : Nat
  hi : Nat
  den : Nat
  closed : Bool

/-- The interval of reals that round to `m * 2 ^ e`, for `m > 0`. -/
def roundingInterval (m : Nat) (e : Int) : RoundingInterval :=
  let below := if m == Nat.pow 2 52 && e > -1074 then 4 * m - 1 else 4 * m - 2
  let up := if e ≥ 2 then Nat.pow 2 (e - 2).toNat else 1
  let down := if e ≥ 2 then 1 else Nat.pow 2 (2 - e).toNat
  ⟨4 * m * up, below * up, (4 * m + 2) * up, down, m % 2 == 0⟩

/-- `c * 10 ^ k` lies in the interval. -/
def RoundingInterval.hits (i : RoundingInterval) (c : Nat) (k : Int) : Bool :=
  let x := if k < 0 then c else c * Nat.pow 10 k.natAbs
  let y := if k < 0 then Nat.pow 10 k.natAbs else 1
  let low := i.lo * y
  let high := i.hi * y
  let mid := x * i.den
  if i.closed then low ≤ mid && mid ≤ high else low < mid && mid < high

/-- The places before the point: the least `k` with `num / den < 10 ^ k`. -/
def placesFrom (num den : Nat) : Nat → Int → Int
  | 0, k => k
  | fuel + 1, k =>
    let power := Nat.pow 10 k.natAbs
    let fits := if k < 0 then num * power < den else num < den * power
    if fits then k else placesFrom num den fuel (k + 1)

/-- The neighbours of the value on the grid of multiples of `10 ^ k`, tested, the nearer one first.
-/
def RoundingInterval.onGrid? (i : RoundingInterval) (k : Int) : Option (Nat × Int) :=
  let n := if k < 0 then i.num * Nat.pow 10 k.natAbs else i.num
  let d := if k < 0 then i.den else i.den * Nat.pow 10 k.natAbs
  let c := n / d
  let near := if 2 * (n % d) > d || (2 * (n % d) == d && c % 2 == 1) then c + 1 else c
  let far := if near == c then c + 1 else c
  if i.hits near k then some (near, k)
  else if i.hits far k then some (far, k)
  else none

/-- The first grid, from `n` digits on, on which the interval has a point. -/
def RoundingInterval.firstGrid (i : RoundingInterval) (places : Int) : Nat → Nat → Nat × Int
  | 0, n => (i.num / i.den, places - n)
  | fuel + 1, n =>
    match i.onGrid? (places - n) with
    | some hit => hit
    | none => i.firstGrid places fuel (n + 1)

/-- The digits and exponent of the shortest decimal that reads back as `m * 2 ^ e`. -/
def shortest (m : Nat) (e : Int) : Nat × Int :=
  let i := roundingInterval m e
  let start : Int := ((i.num.log2 : Int) - i.den.log2 - 1) * 3 / 10 - 2
  i.firstGrid (placesFrom i.num i.den 64 start) 17 1

/-- Digits without the zeros at their end, and their number of places before the point. -/
def pointedDigits (d : Nat × Int) : List Char × Int :=
  let ds := Nat.toDigits 10 d.1
  ((ds.reverse.dropWhile (· == '0')).reverse, (ds.length : Int) + d.2)

/-- Digits with the point after `places` of them. -/
def positional (ds : List Char) (places : Int) : List Char :=
  if places ≤ 0 then '0' :: '.' :: List.replicate places.natAbs '0' ++ ds
  else
    let n := places.toNat
    if ds.length ≤ n then ds ++ List.replicate (n - ds.length) '0' ++ ['.', '0']
    else ds.take n ++ '.' :: ds.drop n

/-- Digits with the point after the first one and an exponent. -/
def scientific (ds : List Char) (places : Int) : List Char :=
  let exponent := places - 1
  let digits := Nat.toDigits 10 exponent.natAbs
  let mantissa := match ds with
    | [] => ['0']
    | [d] => [d]
    | d :: rest => d :: '.' :: rest
  mantissa ++ 'e' :: (if exponent < 0 then '-' else '+') ::
    List.replicate (2 - digits.length) '0' ++ digits

def showFloat (x : Binary64) : String :=
  match x.form with
  | .nan => "nan"
  | .infinite negative => if negative then "-inf" else "inf"
  | .finite negative m e =>
    let sign := if negative then ['-'] else []
    if m == 0 then String.ofList (sign ++ ['0', '.', '0'])
    else
      let (ds, places) := pointedDigits (shortest m e)
      let body := if -4 < places && places ≤ 16 then positional ds places else scientific ds places
      String.ofList (sign ++ body)

end KvMarkup.Number

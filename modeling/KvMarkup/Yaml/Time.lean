import KvMarkup.Data.Moment

/-!
# Points in time as text

A date is written `2001-12-14`.  A time of day may follow it behind a `T` or blanks, with any number
of digits for parts of a second, of which six count, and with an offset from universal time: `Z`, or
a sign, hours and perhaps minutes.
-/

namespace KvMarkup.Yaml

def isDecimal (c : Char) : Bool := '0' ≤ c && c ≤ '9'

def decimalValue (cs : List Char) : Nat := cs.foldl (fun n c => n * 10 + (c.toNat - 48)) 0

/-- Some digits from the front, at least `least` and at most `most` of them. -/
def someDigits (least most : Nat) (cs : List Char) : Option (Nat × List Char) :=
  let ds := (cs.take most).takeWhile isDecimal
  if ds.length < least then none else some (decimalValue ds, cs.drop ds.length)

/-- A character from the front. -/
def theChar (c : Char) (cs : List Char) : Option (List Char) :=
  match cs with
  | d :: rest => if d == c then some rest else none
  | [] => none

/-- An offset from universal time in minutes; `none` inside if there is none. -/
def zone? (cs : List Char) : Option (Option Int) :=
  if cs.isEmpty then some none
  else
    match cs.dropWhile fun c => c == ' ' || c == '\t' with
    | ['Z'] => some (some 0)
    | s :: rest => do
      if s == '-' || s == '+' then
        let (hours, rest) ← someDigits 1 2 rest
        let minutes ←
          if rest.isEmpty then some 0
          else do
            let rest ← theChar ':' rest
            let (minutes, rest) ← someDigits 2 2 rest
            if rest.isEmpty then some minutes else none
        let total : Int := (hours * 60 + minutes : Nat)
        some (some (if s == '-' then -total else total))
      else none
    | [] => none

/-- The microseconds behind a point, and what follows them. -/
def microseconds (cs : List Char) : Nat × List Char :=
  match cs with
  | '.' :: rest =>
    let ds := rest.takeWhile isDecimal
    let six := (ds.take 6) ++ List.replicate (6 - ds.length) '0'
    (decimalValue six, rest.dropWhile isDecimal)
  | _ => (0, cs)

/-- What stands between a date and a time of day. -/
def clockGap? (cs : List Char) : Option (List Char) :=
  match cs with
  | 'T' :: rest => some rest
  | 't' :: rest => some rest
  | ' ' :: rest => some (rest.dropWhile fun c => c == ' ' || c == '\t')
  | '\t' :: rest => some (rest.dropWhile fun c => c == ' ' || c == '\t')
  | _ => none

/-- A date, or a date with a time of day; the numbers may be out of range. -/
def moment? (text : List Char) : Option Moment := do
  let (year, rest) ← someDigits 4 4 text
  let rest ← theChar '-' rest
  let (month, rest) ← someDigits 1 2 rest
  let rest ← theChar '-' rest
  let (day, rest) ← someDigits 1 2 rest
  if rest.isEmpty then some ⟨year, month, day, none⟩
  else
    let rest ← clockGap? rest
    let (hour, rest) ← someDigits 1 2 rest
    let rest ← theChar ':' rest
    let (minute, rest) ← someDigits 2 2 rest
    let rest ← theChar ':' rest
    let (second, rest) ← someDigits 2 2 rest
    let (micro, rest) := microseconds rest
    let offset ← zone? rest
    some ⟨year, month, day, some ⟨hour, minute, second, micro, offset⟩⟩

end KvMarkup.Yaml

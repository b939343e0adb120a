import KvMarkup.Number.Integer

/-!
# Points in time

A date, or a date with a time of day and perhaps an offset from universal time.

Three kinds of moments have nothing in common: dates, times without an offset and times with one.
Two moments of one kind are compared by where they lie on its line, so two times with different
offsets are equal when they are the same instant.
-/

namespace KvMarkup

open KvMarkup.Number

/-- A time of day, with an offset from universal time in minutes where one is known. -/
structure Clock where
  hour : Nat
  minute : Nat
  second : Nat
  microsecond : Nat
  offset : Option Int
deriving DecidableEq

/-- A date, perhaps with a time of day. -/
structure Moment where
  year : Nat
  month : Nat
  day : Nat
  clock : Option Clock
deriving DecidableEq

namespace Moment

/-- A number in at least `width` digits. -/
def digits (width n : Nat) : String :=
  let ds := Nat.toDigits 10 n
  String.ofList (List.replicate (width - ds.length) '0' ++ ds)

def offsetText (minutes : Int) : String :=
  (if minutes < 0 then "-" else "+") ++ digits 2 (minutes.natAbs / 60) ++ ":" ++
    digits 2 (minutes.natAbs % 60)

/-- The date and the time of day, the longest unit first. -/
def text (m : Moment) : String :=
  let date := digits 4 m.year ++ "-" ++ digits 2 m.month ++ "-" ++ digits 2 m.day
  match m.clock with
  | none => date
  | some c =>
    date ++ " " ++ digits 2 c.hour ++ ":" ++ digits 2 c.minute ++ ":" ++ digits 2 c.second ++
      (if c.microsecond == 0 then "" else "." ++ digits 6 c.microsecond) ++
      (c.offset.map offsetText).getD ""

/-- The parts of a moment between brackets. -/
def spelled (m : Moment) : String :=
  let parts := [m.year, m.month, m.day].map fun n => showInt (n : Nat)
  match m.clock with
  | none => "datetime.date(" ++ ", ".intercalate parts ++ ")"
  | some c =>
    let fine := if c.microsecond == 0 then (if c.second == 0 then [] else [c.second])
      else [c.second, c.microsecond]
    let parts := parts ++ ([c.hour, c.minute] ++ fine).map fun n => showInt (n : Nat)
    let zone := match c.offset with
      | none => []
      | some 0 => ["tzinfo=datetime.timezone.utc"]
      | some n =>
        let seconds := showInt ((if n < 0 then n + 1440 else n) * 60)
        let days := if n < 0 then "days=-1, " else ""
        ["tzinfo=datetime.timezone(datetime.timedelta(" ++ days ++ "seconds=" ++ seconds ++ "))"]
    "datetime.datetime(" ++ ", ".intercalate (parts ++ zone) ++ ")"

def typeName (m : Moment) : String :=
  if m.clock.isSome then "datetime.datetime" else "datetime.date"

def daysIn (year month : Nat) : Nat :=
  if month == 2 then
    if year % 4 == 0 && (year % 100 != 0 || year % 400 == 0) then 29 else 28
  else if month == 4 || month == 6 || month == 9 || month == 11 then 30
  else 31

/-- A date of the calendar and a time of the day. -/
def isValid (m : Moment) : Bool :=
  1 ≤ m.year && 1 ≤ m.month && m.month ≤ 12 && 1 ≤ m.day && m.day ≤ daysIn m.year m.month &&
    (match m.clock with
      | none => true
      | some c => c.hour < 24 && c.minute < 60 && c.second < 60)

/-! ## Order -/

/-- The number of days before a month of a year, from the beginning of the calendar on. -/
def daysBefore (year month : Nat) : Nat :=
  let y := year - 1
  365 * y + y / 4 - y / 100 + y / 400 +
    ((List.range (month - 1)).map fun m => daysIn year (m + 1)).foldr (· + ·) 0

inductive Kind where
  | date
  | localTime
  | instant
deriving DecidableEq

def kind (m : Moment) : Kind :=
  match m.clock with
  | none => .date
  | some c => if c.offset.isSome then .instant else .localTime

/-- The place of a moment on the line of its kind, in microseconds. -/
def position (m : Moment) : Int :=
  let days : Int := daysBefore m.year m.month + m.day
  match m.clock with
  | none => days * 86400000000
  | some c =>
    let minutes : Int := (days * 24 + c.hour) * 60 + c.minute - c.offset.getD 0
    (minutes * 60 + c.second) * 1000000 + c.microsecond

/-- Equality of moments: the same kind and the same place. -/
def same (m n : Moment) : Bool := m.kind == n.kind && m.position == n.position

/-- Whether one moment is before or at another; `none` when they are of different kinds. -/
def le? (m n : Moment) : Option Bool :=
  if m.kind == n.kind then some (decide (m.position ≤ n.position)) else none

end Moment

end KvMarkup

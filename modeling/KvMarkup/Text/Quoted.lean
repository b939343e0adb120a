import KvMarkup.Text.Printable

/-!
# Quoted text

A text shown inside a message stands between quotes: single ones, unless it has a single quote and
no double one.  The quote that encloses, the backslash and whatever cannot be printed are escaped.

    quote "it's" = "\"it's\""      quote "a\tb" = "'a\\tb'"
-/

namespace KvMarkup.Text

/-- The digits of `n` in base sixteen, with zeros in front up to `width` places. -/
def hexDigits (width n : Nat) : List Char :=
  let ds := Nat.toDigits 16 n
  List.replicate (width - ds.length) '0' ++ ds

/-- The quote that encloses a text. -/
def quoteMark (cs : List Char) : Char :=
  if cs.contains '\'' && !cs.contains '"' then '"' else '\''

/-- One character inside quotes. -/
def quoteChar (mark c : Char) : List Char :=
  if c == '\\' || c == mark then ['\\', c]
  else if c == '\t' then ['\\', 't']
  else if c == '\n' then ['\\', 'n']
  else if c == '\r' then ['\\', 'r']
  else if isPrintable c then [c]
  else if c.toNat < 0x100 then '\\' :: 'x' :: hexDigits 2 c.toNat
  else if c.toNat < 0x10000 then '\\' :: 'u' :: hexDigits 4 c.toNat
  else '\\' :: 'U' :: hexDigits 8 c.toNat

def quote (s : String) : String :=
  let cs := s.toList
  let mark := quoteMark cs
  String.ofList (mark :: cs.flatMap (quoteChar mark) ++ [mark])

/-- Bytes between quotes behind a `b`: printable ASCII as it is, and the other bytes by number. -/
def quoteBytes (bs : List UInt8) : String :=
  let cs := bs.map fun b => Char.ofNat b.toNat
  let mark := quoteMark cs
  let shown (c : Char) : List Char :=
    if c.toNat < 0x7F then quoteChar mark c else '\\' :: 'x' :: hexDigits 2 c.toNat
  String.ofList ('b' :: mark :: cs.flatMap shown ++ [mark])

end KvMarkup.Text

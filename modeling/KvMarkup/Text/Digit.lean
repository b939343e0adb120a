import KvMarkup.Text.Space

/-!
# Decimal digits

Every script with decimal digits has them as ten code points in a row, from zero to nine, so the
class of decimal digits is given by its zeros.

    digitValue? c = some d   iff   c is the digit d of some script
-/

namespace KvMarkup.Text

/-- The digit zero of each script, in increasing order. -/
def zeroDigits : List Nat :=
  [0x30, 0x660, 0x6F0, 0x7C0, 0x966, 0x9E6, 0xA66, 0xAE6, 0xB66, 0xBE6, 0xC66, 0xCE6, 0xD66,
   0xDE6, 0xE50, 0xED0, 0xF20, 0x1040, 0x1090, 0x17E0, 0x1810, 0x1946, 0x19D0, 0x1A80, 0x1A90,
   0x1B50, 0x1BB0, 0x1C40, 0x1C50, 0xA620, 0xA8D0, 0xA900, 0xA9D0, 0xA9F0, 0xAA50, 0xABF0,
   0xFF10, 0x104A0, 0x10D30, 0x11066, 0x110F0, 0x11136, 0x111D0, 0x112F0, 0x11450, 0x114D0,
   0x11650, 0x116C0, 0x11730, 0x118E0, 0x11950, 0x11C50, 0x11D50, 0x11DA0, 0x16A60, 0x16AC0,
   0x16B50, 0x1D7CE, 0x1D7D8, 0x1D7E2, 0x1D7EC, 0x1D7F6, 0x1E140, 0x1E2F0, 0x1E950, 0x1FBF0]

/-- The value of a code point that is a decimal digit counted from one of the given zeros. -/
def digitFrom? : List Nat → Nat → Option Nat
  | [], _ => none
  | z :: rest, c =>
    if c < z then none else if c < z + 10 then some (c - z) else digitFrom? rest c

/-- The value of a decimal digit of any script. -/
def digitValue? (c : Char) : Option Nat := digitFrom? zeroDigits c.toNat

def isDigit (c : Char) : Bool := (digitValue? c).isSome

/-- The number whose decimal digits are the values of the characters given. -/
def digitsValue (cs : List Char) : Nat :=
  cs.foldl (fun n c => n * 10 + (digitValue? c).getD 0) 0

theorem digitFrom?_lt {zeros : List Nat} {c d : Nat} (h : digitFrom? zeros c = some d) :
    d < 10 := by
  induction zeros with
  | nil => simp [digitFrom?] at h
  | cons z rest ih =>
    rw [digitFrom?] at h
    split at h
    · simp at h
    · split at h
      · simp only [Option.some.injEq] at h; omega
      · exact ih h

theorem digitValue?_lt {c : Char} {d : Nat} (h : digitValue? c = some d) : d < 10 :=
  digitFrom?_lt h

end KvMarkup.Text

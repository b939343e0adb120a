/-!
# Character classes and white space

A character class of the Unicode standard is written down as increasing closed ranges of code
points.  Membership walks the ranges and stops at the first one that begins above the code point:

    CodeRanges.contains rs c  is true iff some (lo, hi) of rs has lo ≤ c ≤ hi      (rs increasing)

`isSpace` is the class of characters that trimming removes: the white space of the Unicode standard
together with the four information separators U+001C to U+001F.  A *line* is a list of characters;
`trim` is its text without white space at both ends and a line is *blank* when nothing is left.

    trim l = trimEnd (trimStart l)
    isBlank l = true  iff  trim l = []                                         (isBlank_iff_trim)
-/

namespace KvMarkup.Text

/-- A set of code points, as increasing closed ranges. -/
abbrev CodeRanges := List (Nat × Nat)

/-- Membership of a code point in increasing ranges. -/
def CodeRanges.contains : CodeRanges → Nat → Bool
  | [], _ => false
  | (lo, hi) :: rest, c => if c < lo then false else c ≤ hi || CodeRanges.contains rest c

abbrev Line := List Char

/-- The code points of white space. -/
def spaceRanges : CodeRanges :=
  [(0x9, 0xD), (0x1C, 0x20), (0x85, 0x85), (0xA0, 0xA0), (0x1680, 0x1680), (0x2000, 0x200A),
   (0x2028, 0x2029), (0x202F, 0x202F), (0x205F, 0x205F), (0x3000, 0x3000)]

/-- White space: what trimming removes. -/
def isSpace (c : Char) : Bool := spaceRanges.contains c.toNat

/-- The text from its first character that is not white space on. -/
def trimStart (l : Line) : Line := l.dropWhile isSpace

/-- The text up to its last character that is not white space. -/
def trimEnd (l : Line) : Line := (l.reverse.dropWhile isSpace).reverse

/-- The text without white space at either end. -/
def trim (l : Line) : Line := trimEnd (trimStart l)

def isBlank (l : Line) : Bool := l.all isSpace

/-- The number of white space characters that a line begins with. -/
def leadingSpace (l : Line) : Nat := (l.takeWhile isSpace).length

/-- The number of blanks (U+0020) that a line begins with. -/
def leadingBlanks (l : Line) : Nat := (l.takeWhile (· == ' ')).length

/-- `n` blanks; none when `n` is negative. -/
def blanks (n : Int) : Line := List.replicate n.toNat ' '

/-! ## Lemmas -/

theorem dropWhile_isSpace_eq_nil_iff (l : Line) : l.dropWhile isSpace = [] ↔ isBlank l = true := by
  induction l with
  | nil => simp [isBlank]
  | cons c cs ih => cases hc : isSpace c <;> simp_all [isBlank]

theorem trimEnd_eq_nil_iff (l : Line) : trimEnd l = [] ↔ isBlank l = true := by
  rw [trimEnd, List.reverse_eq_nil_iff, dropWhile_isSpace_eq_nil_iff]
  simp [isBlank]

theorem isBlank_iff_trim (l : Line) : isBlank l = true ↔ trim l = [] := by
  rw [trim, trimEnd_eq_nil_iff, trimStart]
  induction l with
  | nil => rfl
  | cons c cs ih => cases hc : isSpace c <;> simp_all [isBlank]

end KvMarkup.Text

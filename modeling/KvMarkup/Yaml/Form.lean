import KvMarkup.Yaml.Time

/-!
# Tags and the forms of plain scalars

A tag says what a node of a document is.  The tags with a meaning have a common beginning, for which
`!!` stands: `!!int` is `tag:yaml.org,2002:int`.

A plain scalar without a tag is read by its form: `yes` is a truth value, `010` a whole number in
base eight, `1:30` one in base sixty, `1.5` a floating-point number, `2001-12-14` a date, `~`
nothing, and everything else a text.  In particular `1e3` is a text, since a floating-point number
needs a point and a signed exponent.
-/

namespace KvMarkup.Yaml

/-- What a node is. -/
inductive Tag where
  | null
  | bool
  | int
  | float
  | binary
  | timestamp
  | str
  | pairs
  | seq
  | set
  | map
  /-- A key under which other mappings are merged in. -/
  | merge
  /-- The key of a default value. -/
  | value
  /-- A tag without a meaning. -/
  | other
deriving DecidableEq

namespace Tag

/-- The common beginning of the tags with a meaning. -/
def head : List Char := "tag:yaml.org,2002:".toList

/-- The tags with a meaning by the rest of their text. -/
def names : List (List Char × Tag) :=
  [("null", .null), ("bool", .bool), ("int", .int), ("float", .float), ("binary", .binary),
    ("timestamp", .timestamp), ("str", .str), ("omap", .pairs), ("pairs", .pairs), ("seq", .seq),
    ("set", .set), ("map", .map), ("merge", .merge), ("value", .value)].map fun t =>
    (t.1.toList, t.2)

/-- The tag that a text writes out. -/
def ofText (text : List Char) : Tag :=
  if head.isPrefixOf text then (names.lookup (text.drop head.length)).getD .other else .other

end Tag

/-! ## Digits -/

/-- A decimal digit or an underscore. -/
def isGrouped (c : Char) : Bool := isDecimal c || c == '_'

/-- A binary digit or an underscore. -/
def isBinary (c : Char) : Bool := c == '0' || c == '1' || c == '_'

def isOctal (c : Char) : Bool := ('0' ≤ c && c ≤ '7') || c == '_'

def isHexadecimal (c : Char) : Bool :=
  isGrouped c || ('a' ≤ c && c ≤ 'f') || ('A' ≤ c && c ≤ 'F')

/-- The sign of a number, and what follows it. -/
def signOf (cs : List Char) : Bool × List Char :=
  match cs with
  | '-' :: rest => (true, rest)
  | '+' :: rest => (false, rest)
  | _ => (false, cs)

/-- Digits of base sixty. -/
def isSixtieth (cs : List Char) : Bool :=
  match cs with
  | [d] => isDecimal d
  | [t, d] => '0' ≤ t && t ≤ '5' && isDecimal d
  | _ => false

/-- Digits, the first of which is not an underscore. -/
def isGroupedNumber (cs : List Char) : Bool := cs.all isGrouped && cs.head?.any isDecimal

/-! ## Forms -/

def isIntForm (text : List Char) : Bool :=
  match (signOf text).2 with
  | ['0'] => true
  | '0' :: 'b' :: rest => !rest.isEmpty && rest.all isBinary
  | '0' :: 'x' :: rest => !rest.isEmpty && rest.all isHexadecimal
  | '0' :: rest => rest.all isOctal
  | cs =>
    match cs.splitOn ':' with
    | first :: rest => isGroupedNumber first && first.head? != some '_' && rest.all isSixtieth
    | [] => false

/-- An exponent with its sign, or nothing. -/
def isExponent (cs : List Char) : Bool :=
  match cs with
  | [] => true
  | e :: s :: rest =>
    (e == 'e' || e == 'E') && (s == '-' || s == '+') && !rest.isEmpty && rest.all isDecimal
  | _ => false

/-- A point, digits that may be missing, and an exponent that may be missing. -/
def isFraction (cs : List Char) : Bool :=
  match cs with
  | '.' :: rest => isExponent (rest.dropWhile isGrouped)
  | _ => false

/-- The form of a floating-point number with digits. -/
def isDigitalFloat (text : List Char) : Bool :=
  let cs := (signOf text).2
  let whole := cs.takeWhile isGrouped
  let rest := cs.dropWhile isGrouped
  let pointed := match text with
    | '.' :: d :: _ => isDecimal d && isFraction text
    | _ => false
  let sixties := match (cs.takeWhile (· != '.')).splitOn ':' with
    | first :: parts => isGroupedNumber first && !parts.isEmpty && parts.all isSixtieth
    | [] => false
  (isGroupedNumber whole && isFraction rest) || pointed ||
    (sixties && (match cs.dropWhile (· != '.') with
      | '.' :: rest => rest.all isGrouped
      | _ => false))

def infinities : List (List Char) := [".inf", ".Inf", ".INF"].map String.toList

/-- The names of what is not a number. -/
def notNumbers : List (List Char) := [".nan", ".NaN", ".NAN"].map String.toList

def isFloatForm (text : List Char) : Bool :=
  isDigitalFloat text || infinities.contains (signOf text).2 || notNumbers.contains text

def truthWords : List (List Char) :=
  ["yes", "Yes", "YES", "no", "No", "NO", "true", "True", "TRUE", "false", "False", "FALSE", "on",
    "On", "ON", "off", "Off", "OFF"].map String.toList

/-- The words that are nothing. -/
def nullWords : List (List Char) := ["", "~", "null", "Null", "NULL"].map String.toList

/-- The marks that are kept for later use. -/
def reservedWords : List (List Char) := [['!'], ['&'], ['*']]

/-- The form of a date, with both digits of month and day if no time of day follows. -/
def isTimeForm (text : List Char) : Bool :=
  (moment? text).any fun m => m.clock.isSome || text.length == 10

def tagOfForm (text : List Char) : Tag :=
  if nullWords.contains text then .null
  else if truthWords.contains text then .bool
  else if isFloatForm text then .float
  else if isIntForm text then .int
  else if isTimeForm text then .timestamp
  else if text == ['<', '<'] then .merge
  else if text == ['='] then .value
  else if reservedWords.contains text then .other
  else .str

/-- The text without one line feed at its end. -/
def dropFinalBreak (text : List Char) : List Char :=
  if text.getLast? == some '\n' then text.dropLast else text

/-- The tag of a plain scalar.  A line feed at its end is not part of its form, but a text that
begins with one is only a text. -/
def plainTag (text : List Char) : Tag :=
  if text.head? == some '\n' then .str else tagOfForm (dropFinalBreak text)

end KvMarkup.Yaml

import KvMarkup.Text.Lines

/-!
# Paths

A path is a root (none, `/` or `//`) and the names that follow it.  Writing a path down and reading
it again drops empty names and `.`, and keeps `..`.

A suffix begins at the last dot of the last name, unless that dot is its first or last character.
-/

namespace KvMarkup.File

open KvMarkup.Text

/-- A path in its normal form. -/
structure Path where
  root : String
  names : List String
deriving DecidableEq

namespace Path

/-- The names between the slashes of a text. -/
def split (s : String) : List String := (s.toList.splitOn '/').map String.ofList

def ofText (s : String) : Path :=
  let root :=
    match s.toList with
    | '/' :: '/' :: '/' :: _ => "/"
    | '/' :: '/' :: _ => "//"
    | '/' :: _ => "/"
    | _ => ""
  ⟨root, (split s).filter fun n => n != "" && n != "."⟩

/-- The text of a path; the path of nothing is `.`. -/
def text (p : Path) : String :=
  if p.root == "" && p.names.isEmpty then "." else p.root ++ "/".intercalate p.names

def isAbsolute (p : Path) : Bool := p.root != ""

/-- One path below another; an absolute one stays. -/
def join (p q : Path) : Path := if q.isAbsolute then q else ⟨p.root, p.names ++ q.names⟩

def parent (p : Path) : Path := ⟨p.root, p.names.dropLast⟩

def name (p : Path) : String := p.names.getLast?.getD ""

/-- The last name from its last dot on, unless the dot is its first or last character. -/
def suffix (p : Path) : String :=
  let cs := p.name.toList
  let tail := (cs.reverse.takeWhile (· != '.')).reverse
  if tail.isEmpty || cs.length ≤ tail.length + 1 then ""
  else String.ofList ('.' :: tail)

/-- A byte written in a URI: unreserved characters and slashes stand for themselves. -/
def uriByte (b : UInt8) : List Char :=
  let c := Char.ofNat b.toNat
  if c.isAlphanum || c == '_' || c == '.' || c == '-' || c == '~' || c == '/' then [c]
  else '%' :: (hex (b.toNat / 16)) :: [hex (b.toNat % 16)]
where
  /-- A capital hexadecimal digit. -/
  hex (n : Nat) : Char := if n < 10 then Char.ofNat (48 + n) else Char.ofNat (55 + n)

def uri (p : Path) : String :=
  "file://" ++ String.ofList (p.text.toUTF8.toList.flatMap uriByte)

end Path

end KvMarkup.File

import KvMarkup.Data.Show

/-!
# Writing JSON

`Json.pretty` writes a value over several lines, two blanks to a level, with every character outside
printable ASCII escaped.  `Json.escapeText` is the other convention, which leaves all text as it is
but for quotes, backslashes and control characters.
-/

namespace KvMarkup.Json

open KvMarkup.Number KvMarkup.Text

/-- The two-character escapes that both conventions share. -/
def shortForm? (c : Char) : Option (List Char) :=
  match c with
  | '"' => some ['\\', '"']
  | '\\' => some ['\\', '\\']
  | '\n' => some ['\\', 'n']
  | '\r' => some ['\\', 'r']
  | '\t' => some ['\\', 't']
  | '\x0c' => some ['\\', 'f']
  | '\x08' => some ['\\', 'b']
  | _ => none

/-- A code escape of four hexadecimal digits. -/
def codeForm (n : Nat) : List Char := '\\' :: 'u' :: hexDigits 4 n

/-- One character in printable ASCII; characters beyond the basic plane are surrogate pairs. -/
def asciiChar (c : Char) : List Char :=
  match shortForm? c with
  | some cs => cs
  | none =>
    let n := c.toNat
    if 0x20 ≤ n && n < 0x7F then [c]
    else if n < 0x10000 then codeForm n
    else codeForm (0xD800 + (n - 0x10000) / 0x400) ++ codeForm (0xDC00 + (n - 0x10000) % 0x400)

/-- One character with only quotes, backslashes and control characters escaped. -/
def plainChar (c : Char) : List Char :=
  match shortForm? c with
  | some cs => cs
  | none => if c.toNat < 0x20 then codeForm c.toNat else [c]

/-- A text in quotes, in printable ASCII. -/
def asciiText (s : String) : String := String.ofList ('"' :: s.toList.flatMap asciiChar ++ ['"'])

/-- A text in quotes, with only quotes, backslashes and control characters escaped. -/
def escapeText (s : String) : String := String.ofList ('"' :: s.toList.flatMap plainChar ++ ['"'])

/-- The text of a value without parts; what JSON has no form for is written as a text. -/
def scalarText : Data → String
  | .null => "null"
  | .bool b => if b then "true" else "false"
  | .int n => showInt n
  | .float x =>
    match x.form with
    | .nan => "NaN"
    | .infinite negative => if negative then "-Infinity" else "Infinity"
    | .finite .. => showFloat x
  | .str s => asciiText s
  | d => asciiText d.shown

/-- The text of a key: texts stand for themselves and other scalars are written out. -/
def keyText : Data → String
  | .str s => asciiText s
  | d => "\"" ++ scalarText d ++ "\""

/-- A new line with `depth` levels of two blanks. -/
def newline (depth : Nat) : String := String.ofList ('\n' :: List.replicate (2 * depth) ' ')

/-- Parts between brackets, each on a line of its own one level in. -/
def bracketed (opening closing : String) (depth : Nat) (parts : List String) : String :=
  if parts.isEmpty then opening ++ closing
  else
    opening ++ newline (depth + 1) ++ ("," ++ newline (depth + 1)).intercalate parts ++
      newline depth ++ closing

mutual
/-- A value whose parts are `depth` levels in. -/
def prettyAt (depth : Nat) : Data → String
  | .list items => bracketed "[" "]" depth (prettyItems (depth + 1) items)
  | .map entries => bracketed "\x7b" "\x7d" depth (prettyEntries (depth + 1) entries)
  | d => scalarText d
termination_by structural d => d

def prettyItems (depth : Nat) : List Data → List String
  | [] => []
  | x :: xs => prettyAt depth x :: prettyItems depth xs
termination_by structural xs => xs

def prettyEntries (depth : Nat) : List (Data × Data) → List String
  | [] => []
  | (k, v) :: rest => (keyText k ++ ": " ++ prettyAt depth v) :: prettyEntries depth rest
termination_by structural es => es
end

/-- A value over several lines, in printable ASCII. -/
def pretty (d : Data) : String := prettyAt 0 d

end KvMarkup.Json

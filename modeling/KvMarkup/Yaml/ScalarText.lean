import KvMarkup.Yaml.Cursor

/-!
# The text of YAML scalars

Plain scalars, quoted scalars and block scalars, each read from its beginning.  A line break inside
a plain or quoted scalar folds into a blank, and further breaks are kept.
-/

namespace KvMarkup.Yaml

open Cursor

/-- Breaks folded: one line feed is a blank, more are kept but for the first. -/
def fold (first : List Char) (more : List Char) : List Char :=
  if first != ['\n'] then first ++ more
  else if more.isEmpty then [' '] else more

/-! ## Quoted scalars -/

def escape? (c : Char) : Option Char :=
  match c with
  | '0' => some '\x00'
  | 'a' => some '\x07'
  | 'b' => some '\x08'
  | 't' => some '\t'
  | '\t' => some '\t'
  | 'n' => some '\n'
  | 'v' => some '\x0b'
  | 'f' => some '\x0c'
  | 'r' => some '\r'
  | 'e' => some '\x1b'
  | ' ' => some ' '
  | '"' => some '"'
  | '\\' => some '\\'
  | '/' => some '/'
  | 'N' => some '\x85'
  | '_' => some '\xa0'
  | 'L' => some '\u2028'
  | 'P' => some '\u2029'
  | _ => none

/-- The number of hexadecimal digits of a code escape. -/
def escapeLength? (c : Char) : Option Nat :=
  match c with
  | 'x' => some 2
  | 'u' => some 4
  | 'U' => some 8
  | _ => none

def hexNumber? (cs : List Char) : Option Nat :=
  cs.foldl (fun acc c => do
    let n ← acc
    let d ←
      if '0' ≤ c && c ≤ '9' then some (c.toNat - 48)
      else if 'a' ≤ c && c ≤ 'f' then some (c.toNat - 87)
      else if 'A' ≤ c && c ≤ 'F' then some (c.toNat - 55)
      else none
    some (n * 16 + d)) (some 0)

/-- The breaks after the first one inside quotes, with the white space around them. -/
def quotedBreaks : Nat → Cursor → Except Error (List Char × Cursor)
  | 0, _ => .error .token
  | fuel + 1, c =>
    if c.atDocumentMark then .error .token
    else
      let c := c.skipWhile fun ch => ch == ' ' || ch == '\t'
      if isBreak c.next then do
        let (b, after) := c.lineBreak
        let (more, after) ← quotedBreaks fuel after
        .ok (b ++ more, after)
      else .ok ([], c)

/-- White space inside quotes, up to what follows it. -/
def quotedSpaces (fuel : Nat) (c : Cursor) : Except Error (List Char × Cursor) :=
  let spaces := c.spanWhile fun ch => ch == ' ' || ch == '\t'
  let after := c.advance spaces.length
  if after.next == endOfText then .error .token
  else if isBreak after.next then do
    let (first, after) := after.lineBreak
    let (more, after) ← quotedBreaks fuel after
    .ok (fold first more, after)
  else .ok (spaces, after)

/-- The code of an escape by number and the place behind it; the cursor is behind the backslash.
`none` if there is no such escape here. -/
def escapeCode? (c : Cursor) : Option (Nat × Cursor) := do
  let n ← escapeLength? c.next
  let digits := c.step.rest.take n
  let code ← hexNumber? digits
  if digits.length == n then some (code, c.step.advance n) else none

/-- The first half of a pair of codes that stand for one character together. -/
def isHighHalf (code : Nat) : Bool := 0xD800 ≤ code && code ≤ 0xDBFF

/-- The second half of a pair of codes. -/
def isLowHalf (code : Nat) : Bool := 0xDC00 ≤ code && code ≤ 0xDFFF

/-- The character of a code; a half without the other one is shown as a character that is missing.
-/
def charOf (code : Nat) : Except Error Char :=
  if code > 0x7FFFFFFF then .error (.misfit .tooLarge)
  else if code > 0x10FFFF then .error (.misfit .codePoint)
  else if isHighHalf code || isLowHalf code then .ok '\uFFFD'
  else .ok (Char.ofNat code)

/-- The character of an escape by number, for which two escapes may stand together. -/
def numberedEscape (code : Nat) (after : Cursor) : Except Error (List Char × Cursor) :=
  let low? := if isHighHalf code && after.next == '\\' then escapeCode? after.step else none
  match low?.filter fun low => isLowHalf low.1 with
  | some (low, last) =>
    .ok ([Char.ofNat (0x10000 + (code - 0xD800) * 0x400 + (low - 0xDC00))], last)
  | none => (charOf code).map fun ch => ([ch], after)

/-- An escape in double quotes; the cursor is behind the backslash. -/
def quotedEscape (fuel : Nat) (c : Cursor) : Except Error (List Char × Cursor) :=
  match escape? c.next with
  | some ch => .ok ([ch], c.step)
  | none =>
    match escapeCode? c with
    | some (code, after) => numberedEscape code after
    | none => if isBreak c.next then quotedBreaks fuel c.lineBreak.2 else .error .token

/-- A character that needs no care inside quotes. -/
def isQuotedPlain (c : Char) : Bool := !(c == '\'' || c == '"' || c == '\\' || endsWord c)

/-- The text of a quoted scalar up to its closing quote. -/
def quotedText (quote : Char) : Nat → Cursor → Except Error (List Char × Cursor)
  | 0, _ => .error .token
  | fuel + 1, c => do
    let plain := c.spanWhile isQuotedPlain
    let here := c.advance plain.length
    let single := quote == '\''
    if single && here.next == '\'' && here.peek 1 == '\'' then
      let (more, after) ← quotedText quote fuel (here.advance 2)
      .ok (plain ++ '\'' :: more, after)
    else if here.next == quote then .ok (plain, here.step)
    else if here.next == '\'' || here.next == '"' || (single && here.next == '\\') then
      let (more, after) ← quotedText quote fuel here.step
      .ok (plain ++ here.next :: more, after)
    else if here.next == '\\' then
      let (ch, after) ← quotedEscape fuel here.step
      let (more, after) ← quotedText quote fuel after
      .ok (plain ++ ch ++ more, after)
    else
      let (spaces, after) ← quotedSpaces fuel here
      let (more, after) ← quotedText quote fuel after
      .ok (plain ++ spaces ++ more, after)

/-- A quoted scalar, from its opening quote on. -/
def quoted (c : Cursor) : Except Error (List Char × Cursor) :=
  quotedText c.next (c.rest.length + 1) c.step

/-! ## Plain scalars -/

/-- A bracket, brace or comma. -/
def isFlowMark (c : Char) : Bool := c == ',' || c == '[' || c == ']' || c == '\x7b' || c == '\x7d'

/-- The length of the run of plain characters from here on. -/
def plainLength (inFlow : Bool) : List Char → Nat
  | [] => 0
  | c :: rest =>
    let after := rest.headD endOfText
    if endsWord c then 0
    else if c == ':' && (endsWord after || (inFlow && isFlowMark after)) then 0
    else if inFlow && (isFlowMark c || c == '?') then 0
    else plainLength inFlow rest + 1

/-- Breaks and blanks after the first break of a plain scalar; none when a document mark follows. -/
def plainBreaks : Nat → Cursor → Option (List Char) × Cursor
  | 0, c => (some [], c)
  | fuel + 1, c =>
    if c.next == ' ' then plainBreaks fuel c.step
    else if isBreak c.next then
      let (b, after) := c.lineBreak
      if after.atDocumentMark then (none, after)
      else
        let (more, after) := plainBreaks fuel after
        (more.map (b ++ ·), after)
    else (some [], c)

/-- What stands between two runs of a plain scalar, whether a line ended there, and the place after
it. -/
def plainSpaces (fuel : Nat) (c : Cursor) : List Char × Bool × Cursor :=
  let spaces := c.spanWhile (· == ' ')
  let after := c.advance spaces.length
  if isBreak after.next then
    let (first, after) := after.lineBreak
    if after.atDocumentMark then ([], true, after)
    else
      let (more, after) := plainBreaks fuel after
      ((more.map (fold first)).getD [], true, after)
  else (spaces, false, after)

/-- The text of a plain scalar whose lines are indented by at least `indent`; also whether it ended
with a line break. -/
def plainText (inFlow : Bool) (indent : Int) : Nat → Cursor → List Char × Bool × Cursor
  | 0, c => ([], false, c)
  | fuel + 1, c =>
    let n := if c.next == '#' then 0 else plainLength inFlow c.rest
    if n == 0 then ([], false, c)
    else
      let run := c.rest.take n
      let (spaces, broke, after) := plainSpaces (c.rest.length + 1) (c.advance n)
      if spaces.isEmpty || after.next == '#' || (!inFlow && (after.column : Int) < indent) then
        (run, broke, after)
      else
        let (more, brokeLater, afterMore) := plainText inFlow indent fuel after
        if more.isEmpty then (run, broke, after)
        else (run ++ spaces ++ more, brokeLater, afterMore)

/-- A plain scalar, from its first character on. -/
def plain (inFlow : Bool) (indent : Int) (c : Cursor) : List Char × Bool × Cursor :=
  plainText inFlow indent (c.rest.length + 1) c

/-! ## Block scalars -/

/-- What happens to the line breaks at the end of a block scalar. -/
inductive Chomping where
  | strip
  | clip
  | keep
deriving DecidableEq

/-- The chomping that a sign asks for. -/
def chompingOf? (c : Char) : Option Chomping :=
  if c == '+' then some .keep else if c == '-' then some .strip else none

/-- The indentation that a digit asks for. -/
def incrementOf? (c : Char) : Option Nat :=
  if '0' ≤ c && c ≤ '9' then some (c.toNat - 48) else none

/-- The signs behind the mark of a block scalar. -/
def blockHeader (c : Cursor) : Except Error (Chomping × Option Nat × Cursor) := do
  let (chomping, increment, after) :=
    match chompingOf? c.next with
    | some chomping =>
      match incrementOf? c.step.next with
      | some n => (chomping, some n, c.advance 2)
      | none => (chomping, none, c.step)
    | none =>
      match incrementOf? c.next with
      | some n =>
        match chompingOf? c.step.next with
        | some chomping => (chomping, some n, c.advance 2)
        | none => (.clip, some n, c.step)
      | none => (.clip, none, c)
  if increment == some 0 then .error .token
  else if endsLine after.next || after.next == ' ' then .ok (chomping, increment, after)
  else .error .token

/-- The rest of the header line, which may hold a comment. -/
def headerLine (c : Cursor) : Except Error Cursor :=
  let c := c.skipWhile (· == ' ')
  let c := if c.next == '#' then c.skipWhile (!isBreak ·) else c
  if endsLine c.next then .ok c.lineBreak.2 else .error .token

/-- Empty lines in front of a block scalar, with the greatest indentation among them. -/
def blockIndentation : Nat → Cursor → List Char × Nat × Cursor
  | 0, c => ([], 0, c)
  | fuel + 1, c =>
    if c.next == ' ' then
      let after := c.step
      let (breaks, most, last) := blockIndentation fuel after
      (breaks, max most after.column, last)
    else if isBreak c.next then
      let (b, after) := c.lineBreak
      let (breaks, most, last) := blockIndentation fuel after
      (b ++ breaks, most, last)
    else ([], 0, c)

/-- Past blanks, but not past the given column. -/
def skipIndent (indent : Nat) : Nat → Cursor → Cursor
  | 0, c => c
  | fuel + 1, c =>
    if c.column < indent && c.next == ' ' then skipIndent indent fuel c.step else c

/-- Empty lines inside a block scalar. -/
def blockBreaks (indent : Nat) : Nat → Cursor → List Char × Cursor
  | 0, c => ([], c)
  | fuel + 1, c =>
    let c := skipIndent indent (c.rest.length + 1) c
    if isBreak c.next then
      let (b, after) := c.lineBreak
      let (more, last) := blockBreaks indent fuel after
      (b ++ more, last)
    else ([], c)

/-- The lines of a block scalar; gives the text, the last line break and the empty lines after it.
-/
def blockLines (folded : Bool) (indent : Nat) :
    Nat → List Char → Cursor → List Char × List Char × List Char × Cursor
  | 0, breaks, c => ([], [], breaks, c)
  | fuel + 1, breaks, c =>
    if c.column == indent && c.next != endOfText then
      let flush := !(c.next == ' ' || c.next == '\t')
      let line := c.spanWhile (!isBreak ·)
      let (b, after) := (c.advance line.length).lineBreak
      let (nextBreaks, after) := blockBreaks indent (after.rest.length + 1) after
      if after.column == indent && after.next != endOfText then
        let joint :=
          if folded && b == ['\n'] && flush && !(after.next == ' ' || after.next == '\t') then
            if nextBreaks.isEmpty then [' '] else []
          else b
        let (more, last, tail, stop) := blockLines folded indent fuel nextBreaks after
        (breaks ++ line ++ joint ++ more, last, tail, stop)
      else (breaks ++ line, b, nextBreaks, after)
    else ([], [], breaks, c)

/-- A block scalar, from its mark on; `parent` is the indentation of what it belongs to. -/
def block (folded : Bool) (parent : Int) (c : Cursor) : Except Error (List Char × Cursor) := do
  let fuel := c.rest.length + 1
  let (chomping, increment, c) ← blockHeader c.step
  let c ← headerLine c
  let least := (max (parent + 1) 1).toNat
  let (indent, breaks, c) := match increment with
    | none =>
      let (breaks, most, c) := blockIndentation fuel c
      (max least most, breaks, c)
    | some n =>
      let indent := least + n - 1
      let (breaks, c) := blockBreaks indent fuel c
      (indent, breaks, c)
  let (text, last, tail, c) := blockLines folded indent fuel breaks c
  let kept := match chomping with
    | .strip => []
    | .clip => last
    | .keep => last ++ tail
  .ok (text ++ kept, c)

end KvMarkup.Yaml

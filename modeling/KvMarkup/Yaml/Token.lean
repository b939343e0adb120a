import KvMarkup.Number.Integer
import KvMarkup.Text.Utf8
import KvMarkup.Yaml.ScalarText

/-!
# The tokens of a YAML text

Indentation becomes tokens that open and close blocks.  What stands before a `:` is a key, which is
known only when the `:` is met: the places where a key may have begun are kept, one for each level
of flow brackets, and the token for the key is put in front when its `:` arrives.  A place is given
up at the end of its line or after 1024 characters, and it is an error to give up one where only a
key can stand.

Tokens are read as they are asked for.  The first one is handed out when no key can begin with it
any more, so a fault of the text is found before or after the use of a token by this rule.
-/

namespace KvMarkup.Yaml

open Cursor

/-- What a line that begins with `%` says. -/
inductive Directive where
  | version (major : Nat)
  | handle (name : List Char) (head : List Char)
  | other
deriving DecidableEq

inductive Token where
  | directive (d : Directive)
  | documentStart
  | documentEnd
  | blockSequenceStart
  | blockMappingStart
  | blockEnd
  | flowSequenceStart
  | flowSequenceEnd
  | flowMappingStart
  | flowMappingEnd
  | blockEntry
  | flowEntry
  | key
  | value
  | alias (name : List Char)
  | anchor (name : List Char)
  | tag (handle : Option (List Char)) (rest : List Char)
  | scalar (isPlain : Bool) (text : List Char)
deriving DecidableEq

/-- A token that may turn out to begin a key. -/
structure PendingKey where
  /-- The number of tokens before it. -/
  position : Nat
  required : Bool
  offset : Nat
  line : Nat
  column : Nat

/-- The state between two tokens. -/
structure Lexer where
  cursor : Cursor
  /-- The tokens that were read and not handed out. -/
  queue : List Token
  taken : Nat
  isDone : Bool
  /-- The number of open flow brackets, counting each closing one without an opening one as minus
  one. -/
  flow : Int
  /-- The column of the innermost block, or -1. -/
  indent : Int
  /-- The columns of the blocks around it. -/
  outer : List Int
  /-- A key may begin with the next token. -/
  allowKey : Bool
  /-- Where keys may have begun, by the number of open flow brackets. -/
  pending : List (Int × PendingKey)

namespace Lexer

def start (text : List Char) : Lexer :=
  let cursor := Cursor.start text
  ⟨if cursor.next == '\uFEFF' then cursor.step else cursor, [], 0, false, 0, -1, [], true, []⟩

/-- One more token. -/
def emit (l : Lexer) (t : Token) : Lexer := { l with queue := l.queue ++ [t] }

def moveTo (l : Lexer) (c : Cursor) : Lexer := { l with cursor := c }

/-- Puts tokens in front of the one at a position. -/
def emitBefore (l : Lexer) (position : Nat) (ts : List Token) : Lexer :=
  let earlier := position - l.taken
  { l with queue := l.queue.take earlier ++ ts ++ l.queue.drop earlier }

/-! ## Keys -/

/-- No key that began here can still be going on. -/
def isStale (c : Cursor) (k : PendingKey) : Bool := k.line != c.line || c.offset - k.offset > 1024

/-- Gives up the keys that cannot be going on. -/
def forgetStale (l : Lexer) : Except Error Lexer :=
  if l.pending.any fun p => p.2.required && isStale l.cursor p.2 then .error .missingColon
  else .ok { l with pending := l.pending.filter fun p => !isStale l.cursor p.2 }

/-- Gives up the key that may have begun between the present brackets. -/
def forgetKey (l : Lexer) : Except Error Lexer :=
  match l.pending.lookup l.flow with
  | none => .ok l
  | some k =>
    if k.required then .error .missingColon
    else .ok { l with pending := l.pending.filter fun p => p.1 != l.flow }

/-- Remembers that a key may begin here. -/
def rememberKey (l : Lexer) : Except Error Lexer :=
  if l.allowKey then do
    let l ← l.forgetKey
    let c := l.cursor
    let k : PendingKey :=
      ⟨l.taken + l.queue.length, l.flow == 0 && l.indent == c.column, c.offset, c.line, c.column⟩
    .ok { l with pending := (l.flow, k) :: l.pending }
  else .ok l

/-! ## Indentation -/

/-- Leaves the blocks that are indented further than a column: their number, and what is left. -/
def leave (column : Int) : Int → List Int → Nat × Int × List Int
  | indent, [] => if indent > column then (1, -1, []) else (0, indent, [])
  | indent, next :: outer =>
    if indent > column then
      let (n, rest) := leave column next outer
      (n + 1, rest)
    else (0, indent, next :: outer)

/-- Closes the blocks that are indented further than a column. -/
def unwind (l : Lexer) (column : Int) : Lexer :=
  if l.flow != 0 then l
  else
    let (n, indent, outer) := leave column l.indent l.outer
    { l with
      queue := l.queue ++ List.replicate n .blockEnd
      indent := indent
      outer := outer }

/-- Opens a block at a column, if it is indented further than the present one; `none` if not. -/
def indentTo? (l : Lexer) (column : Nat) : Option Lexer :=
  if l.indent < column then some { l with indent := column, outer := l.indent :: l.outer } else none

/-! ## Directives, anchors and tags -/

def isNameChar (c : Char) : Bool :=
  ('0' ≤ c && c ≤ '9') || ('A' ≤ c && c ≤ 'Z') || ('a' ≤ c && c ≤ 'z') || c == '-' || c == '_'

/-- A blank, a line break or the end of the text. -/
def endsTag (c : Char) : Bool := endsLine c || c == ' '

/-- A name, which may not be empty. -/
def name (c : Cursor) : Except Error (List Char × Cursor) :=
  let n := c.spanWhile isNameChar
  if n.isEmpty then .error .token else .ok (n, c.advance n.length)

/-- A character of the rest of a tag. -/
def isTagChar (c : Char) : Bool := isNameChar c || ";/?:@&=+$,.!~*'()[]".toList.contains c

/-- The bytes that a text begins with, each written as a `%` and two digits. -/
def escapedBytes : List Char → Except Error (List UInt8)
  | '%' :: high :: low :: rest =>
    match hexNumber? [high, low] with
    | some n => (escapedBytes rest).map (UInt8.ofNat n :: ·)
    | none => .error .token
  | '%' :: _ => .error .token
  | _ => .ok []

/-- The characters of a tag that a text begins with, and the number of characters that they are
written with. -/
def tagChars : Nat → List Char → Except Error (List Char × Nat)
  | 0, _ => .ok ([], 0)
  | fuel + 1, cs =>
    match cs with
    | [] => .ok ([], 0)
    | c :: rest =>
      if c == '%' then do
        let bytes ← escapedBytes cs
        match Text.decodeUtf8? bytes with
        | none => .error .token
        | some s =>
          let (more, n) ← tagChars fuel (cs.drop (3 * bytes.length))
          .ok (s.toList ++ more, 3 * bytes.length + n)
      else if isTagChar c then
        (tagChars fuel rest).map fun more => (c :: more.1, more.2 + 1)
      else .ok ([], 0)

/-- The rest of a tag, which may not be empty. -/
def tagRest (c : Cursor) : Except Error (List Char × Cursor) := do
  let (text, n) ← tagChars (c.rest.length + 1) c.rest
  if n == 0 then .error .token else .ok (text, c.advance n)

/-- The handle of a tag, from its `!` on. -/
def tagHandle (c : Cursor) : Except Error (List Char × Cursor) :=
  if c.next != '!' then .error .token
  else if c.peek 1 == ' ' then .ok (['!'], c.step)
  else
    let n := c.step.spanWhile isNameChar
    let after := c.step.advance n.length
    if after.next == '!' then .ok ('!' :: n ++ ['!'], after.step) else .error .token

def digits (c : Cursor) : Except Error (Nat × Cursor) :=
  let n := c.spanWhile Char.isDigit
  if n.isEmpty then .error .token
  else if n.length > Number.maxDigits then .error (.misfit .number)
  else .ok (n.foldl (fun acc d => acc * 10 + (d.toNat - 48)) 0, c.advance n.length)

/-- What a directive says after its name. -/
def directiveBody (n : List Char) (c : Cursor) : Except Error (Directive × Cursor) :=
  let skip (c : Cursor) := c.skipWhile (· == ' ')
  if n == "YAML".toList then do
    let (major, c) ← digits (skip c)
    if c.next != '.' then .error .token
    else
      let (_, c) ← digits c.step
      if endsTag c.next then .ok (.version major, c) else .error .token
  else if n == "TAG".toList then do
    let (handle, c) ← tagHandle (skip c)
    if c.next != ' ' then .error .token
    else
      let (head, c) ← tagRest (skip c)
      if endsTag c.next then .ok (.handle handle head, c) else .error .token
  else .ok (.other, c.skipWhile (!isBreak ·))

/-- A directive, from its `%` on. -/
def directive (c : Cursor) : Except Error (Directive × Cursor) := do
  let (n, c) ← name c.step
  if endsTag c.next then
    let (d, c) ← directiveBody n c
    let c ← headerLine c
    .ok (d, c)
  else .error .token

/-- The name behind the mark of an anchor or alias. -/
def anchorName (c : Cursor) : Except Error (List Char × Cursor) := do
  let (n, c) ← name c.step
  if endsWord c.next || "?:,]\x7d%@\x60".toList.contains c.next then .ok (n, c) else .error .token

/-- A tag, from its `!` on. -/
def tag (c : Cursor) : Except Error (Token × Cursor) := do
  let (t, c) ← show Except Error (Token × Cursor) from
    if c.peek 1 == '<' then do
      let (rest, c) ← tagRest (c.advance 2)
      if c.next == '>' then .ok (.tag none rest, c.step) else .error .token
    else if endsWord (c.peek 1) then .ok (.tag none ['!'], c.step)
    else if (c.step.spanWhile (!endsTag ·)).contains '!' then do
      let (handle, c) ← tagHandle c
      let (rest, c) ← tagRest c
      .ok (.tag (some handle) rest, c)
    else do
      let (rest, c) ← tagRest c.step
      .ok (.tag (some ['!']) rest, c)
  if endsTag c.next then .ok (t, c) else .error .token

/-! ## One token -/

/-- Past blanks, comments and line breaks; outside brackets a key may begin on a new line. -/
def skipBlank (inFlow : Bool) : Nat → Bool → Cursor → Bool × Cursor
  | 0, allowKey, c => (allowKey, c)
  | fuel + 1, allowKey, c =>
    let c := c.skipWhile (· == ' ')
    let c := if c.next == '#' then c.skipWhile (!isBreak ·) else c
    if isBreak c.next then skipBlank inFlow fuel (allowKey || !inFlow) c.lineBreak.2
    else (allowKey, c)

/-- Up to where the next token begins, with the blocks closed that end there. -/
def settle (l : Lexer) : Except Error Lexer := do
  let (allowKey, c) := skipBlank (l.flow != 0) (l.cursor.rest.length + 1) l.allowKey l.cursor
  let l ← forgetStale { l with cursor := c, allowKey := allowKey }
  .ok (l.unwind c.column)

def beginsPlain (c : Cursor) (inFlow : Bool) : Bool :=
  let ch := c.next
  !(endsWord ch || "-?:,[]\x7b\x7d#&*!|>'\"%@\x60".toList.contains ch) ||
    (!endsWord (c.peek 1) && (ch == '-' || (!inFlow && (ch == '?' || ch == ':'))))

/-- Before a mark that ends all blocks and the key that may have begun. -/
def outermost (l : Lexer) : Except Error Lexer := do
  let l ← (l.unwind (-1)).forgetKey
  .ok { l with allowKey := false }

def openFlow (l : Lexer) (t : Token) : Except Error Lexer := do
  let l ← l.rememberKey
  .ok ({ l with flow := l.flow + 1, allowKey := true, cursor := l.cursor.step }.emit t)

def closeFlow (l : Lexer) (t : Token) : Except Error Lexer := do
  let l ← l.forgetKey
  .ok ({ l with flow := l.flow - 1, allowKey := false, cursor := l.cursor.step }.emit t)

/-- Opens a block for an entry or key here, unless between brackets. -/
def openBlock (l : Lexer) (t : Token) : Except Error Lexer :=
  if l.flow != 0 then .ok l
  else if !l.allowKey then .error .order
  else match l.indentTo? l.cursor.column with
    | some l => .ok (l.emit t)
    | none => .ok l

/-- A `-` before an entry. -/
def entryMark (l : Lexer) : Except Error Lexer := do
  let l ← l.openBlock .blockSequenceStart
  let l ← forgetKey { l with allowKey := true }
  .ok ((l.moveTo l.cursor.step).emit .blockEntry)

/-- A `?` before a key. -/
def keyMark (l : Lexer) : Except Error Lexer := do
  let l ← l.openBlock .blockMappingStart
  let l ← forgetKey { l with allowKey := l.flow == 0 }
  .ok ((l.moveTo l.cursor.step).emit .key)

/-- A `:` before a value. -/
def valueMark (l : Lexer) : Except Error Lexer := do
  let l ← match l.pending.lookup l.flow with
    | some k =>
      let l := { l with pending := l.pending.filter fun p => p.1 != l.flow, allowKey := false }
      let opened := if l.flow != 0 then none else l.indentTo? k.column
      match opened with
      | some l => .ok (l.emitBefore k.position [.blockMappingStart, .key])
      | none => .ok (l.emitBefore k.position [.key])
    | none => do
      let l ← l.openBlock .blockMappingStart
      forgetKey { l with allowKey := l.flow == 0 }
  .ok ((l.moveTo l.cursor.step).emit .value)

/-- A token that may begin a key, and after which none may begin. -/
def keyLike (l : Lexer) (read : Cursor → Except Error (Token × Cursor)) : Except Error Lexer := do
  let l ← l.rememberKey
  let (t, c) ← read l.cursor
  .ok ({ l with allowKey := false, cursor := c }.emit t)

/-- A plain scalar; a key may begin after it if a line ended. -/
def plainScalar (l : Lexer) : Except Error Lexer := do
  let l ← l.rememberKey
  let (text, broke, c) := plain (l.flow != 0) (l.indent + 1) l.cursor
  .ok ({ l with allowKey := broke, cursor := c }.emit (.scalar true text))

def blockScalar (l : Lexer) (folded : Bool) : Except Error Lexer := do
  let l ← forgetKey { l with allowKey := true }
  let (text, c) ← block folded l.indent l.cursor
  .ok ((l.moveTo c).emit (.scalar false text))

def readToken (l : Lexer) : Except Error Lexer :=
  let c := l.cursor
  let inFlow := l.flow != 0
  let markEnds := inFlow || endsWord (c.peek 1)
  if c.column == 0 && c.next == '%' then do
    let l ← l.outermost
    let (d, c) ← directive c
    .ok ((l.moveTo c).emit (.directive d))
  else if c.column == 0 && c.atDocumentMark then do
    let l ← l.outermost
    .ok ((l.moveTo (c.advance 3)).emit (if c.next == '-' then .documentStart else .documentEnd))
  else match c.next with
  | '[' => l.openFlow .flowSequenceStart
  | '\x7b' => l.openFlow .flowMappingStart
  | ']' => l.closeFlow .flowSequenceEnd
  | '\x7d' => l.closeFlow .flowMappingEnd
  | ',' => do
    let l ← forgetKey { l with allowKey := true }
    .ok ((l.moveTo c.step).emit .flowEntry)
  | '*' => l.keyLike fun c => (anchorName c).map fun n => (.alias n.1, n.2)
  | '&' => l.keyLike fun c => (anchorName c).map fun n => (.anchor n.1, n.2)
  | '!' => l.keyLike tag
  | '\'' => l.keyLike fun c => (quoted c).map fun s => (.scalar false s.1, s.2)
  | '"' => l.keyLike fun c => (quoted c).map fun s => (.scalar false s.1, s.2)
  | ch =>
    if ch == '-' && endsWord (c.peek 1) then l.entryMark
    else if ch == '?' && markEnds then l.keyMark
    else if ch == ':' && markEnds then l.valueMark
    else if (ch == '|' || ch == '>') && !inFlow then l.blockScalar (ch == '>')
    else if beginsPlain c inFlow then l.plainScalar
    else .error .token

/-- Reads on by one token, or to the end of the text. -/
def readOn (l : Lexer) : Except Error Lexer := do
  let l ← l.settle
  if l.cursor.rest.isEmpty then
    let l ← l.outermost
    .ok { l with isDone := true, pending := [] }
  else l.readToken

/-! ## Handing out tokens -/

/-- Reads until the first token of the queue can be handed out: there is one, and no key can begin
with it any more. -/
def ready : Nat → Lexer → Except Error Lexer
  | 0, _ => .error .token
  | fuel + 1, l =>
    if l.isDone then .ok l
    else if l.queue.isEmpty then do ready fuel (← l.readOn)
    else do
      let l ← l.forgetStale
      if l.pending.any fun p => p.2.position == l.taken then ready fuel (← l.readOn)
      else .ok l

/-- Hands out the first token. -/
def drop (l : Lexer) : Lexer := { l with queue := l.queue.drop 1, taken := l.taken + 1 }

end Lexer

end KvMarkup.Yaml

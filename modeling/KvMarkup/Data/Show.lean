import KvMarkup.Data.Basic
import KvMarkup.Number.Shortest
import KvMarkup.Text.Quoted

/-!
# Data as text

`Data.shown` is the text of a value inside a label: texts and dates stand for themselves and
everything else is written as `Data.quoted` writes it, with quoted texts, sequences in brackets and
mappings in braces.  A sequence or mapping inside itself is written as dots in its brackets.
-/

namespace KvMarkup.Data

open KvMarkup.Number KvMarkup.Text

/-- The text of a value without parts. -/
def quotedScalar : Data → String
  | .null => "None"
  | .bool b => if b then "True" else "False"
  | .int n => showInt n
  | .float x => showFloat x
  | .str s => quote s
  | .moment m => m.spelled
  | .bytes bs => quoteBytes bs
  | .again isMapping => if isMapping then "\x7b...\x7d" else "[...]"
  | .list _ => ""
  | .tuple _ => ""
  | .set _ => ""
  | .map _ => ""

/-- Items in round brackets; a single one is followed by a comma. -/
def grouped (items : List String) : String :=
  match items with
  | [item] => "(" ++ item ++ ",)"
  | _ => "(" ++ ", ".intercalate items ++ ")"

/-- Items in braces; without items there are no braces either. -/
def gathered (items : List String) : String :=
  if items.isEmpty then "set()" else "\x7b" ++ ", ".intercalate items ++ "\x7d"

mutual
/-- A value written out, texts in quotes. -/
def quoted : Data → String
  | .list items => "[" ++ ", ".intercalate (quotedItems items) ++ "]"
  | .tuple items => grouped (quotedItems items)
  | .set items => gathered (quotedItems items)
  | .map entries => "\x7b" ++ ", ".intercalate (quotedEntries entries) ++ "\x7d"
  | d => d.quotedScalar
termination_by structural d => d

def quotedItems : List Data → List String
  | [] => []
  | x :: xs => x.quoted :: quotedItems xs
termination_by structural xs => xs

def quotedEntries : List (Data × Data) → List String
  | [] => []
  | (k, v) :: rest => (k.quoted ++ ": " ++ v.quoted) :: quotedEntries rest
termination_by structural es => es
end

mutual
/-- Whether a value can be written out: no whole number in it has more than `maxDigits` digits. -/
def isWritable : Data → Bool
  | .int n => decide (n.natAbs < Nat.pow 10 maxDigits)
  | .list items => allWritable items
  | .tuple items => allWritable items
  | .set items => allWritable items
  | .map entries => entriesWritable entries
  | _ => true
termination_by structural d => d

def allWritable : List Data → Bool
  | [] => true
  | x :: xs => x.isWritable && allWritable xs
termination_by structural xs => xs

def entriesWritable : List (Data × Data) → Bool
  | [] => true
  | (k, v) :: rest => k.isWritable && v.isWritable && entriesWritable rest
termination_by structural es => es
end

/-- A value inside a label: a text stands for itself. -/
def shown : Data → String
  | .str s => s
  | .moment m => m.text
  | d => d.quoted

end KvMarkup.Data

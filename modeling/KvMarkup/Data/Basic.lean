import KvMarkup.Data.Moment
import KvMarkup.Number.Binary64

/-!
# Dynamic data

`Data` is what a JSON or YAML document decodes to.  A mapping is a list of entries in the order in
which their keys first appeared; `put` keeps keys distinct, a later value replacing an earlier one.
A YAML document can also hold bytes, pairs and sets, and a sequence or mapping of it can stand
inside itself: the inner place is then `again`, which has no parts.

Keys are compared by `same`, under which numbers of every kind are equal when their values are, so
`1`, `1.0` and `true` are one key.
-/

namespace KvMarkup

open KvMarkup.Number

/-- A decoded value. -/
inductive Data where
  | null
  | bool (b : Bool)
  | int (n : Int)
  | float (x : Binary64)
  | str (s : String)
  | moment (m : Moment)
  | bytes (bs : List UInt8)
  | list (items : List Data)
  | tuple (items : List Data)
  | set (items : List Data)
  | map (entries : List (Data × Data))
  /-- A sequence or mapping inside itself. -/
  | again (isMapping : Bool)
deriving Inhabited

namespace Data

/-- The name of a value's type, as it stands in messages. -/
def typeName : Data → String
  | .null => "NoneType"
  | .bool _ => "bool"
  | .int _ => "int"
  | .float _ => "float"
  | .str _ => "str"
  | .moment m => m.typeName
  | .bytes _ => "bytes"
  | .list _ => "list"
  | .tuple _ => "tuple"
  | .set _ => "set"
  | .map _ => "dict"
  | .again isMapping => if isMapping then "dict" else "list"

/-- Everything but nothing: null, false, zero and what has no parts are not truthy. -/
def isTruthy : Data → Bool
  | .null => false
  | .bool b => b
  | .int n => n != 0
  | .float x => !x.isZero
  | .str s => s != ""
  | .moment _ => true
  | .bytes bs => !bs.isEmpty
  | .list items => !items.isEmpty
  | .tuple items => !items.isEmpty
  | .set items => !items.isEmpty
  | .map entries => !entries.isEmpty
  | .again _ => true

mutual
/-- Scalars can be keys, and groups of keys can; sequences, sets and mappings cannot. -/
def isKey : Data → Bool
  | .list _ => false
  | .set _ => false
  | .map _ => false
  | .again _ => false
  | .tuple items => allKeys items
  | _ => true
termination_by structural d => d
/-- Whether all values of some can be keys. -/
def allKeys : List Data → Bool
  | [] => true
  | d :: ds => d.isKey && allKeys ds
termination_by structural ds => ds
end

/-- A number with the two infinities around the rationals. -/
inductive Extended where
  | minusInfinity
  | finite (r : Rat)
  | plusInfinity

def Extended.le : Extended → Extended → Bool
  | .minusInfinity, _ => true
  | _, .plusInfinity => true
  | .finite a, .finite b => a ≤ b
  | _, _ => false

def Extended.same (a b : Extended) : Bool := a.le b && b.le a

/-- The number that a value is: truth values count as zero and one, and a NaN is none. -/
def number? : Data → Option Extended
  | .bool b => some (.finite (if b then 1 else 0))
  | .int n => some (.finite n)
  | .float x =>
    match x.form with
    | .nan => none
    | .infinite negative => some (if negative then .minusInfinity else .plusInfinity)
    | .finite .. => x.toRat?.map .finite
  | _ => none

/-- Numbers and truth values, a NaN included. -/
def isNumeric : Data → Bool
  | .bool _ => true
  | .int _ => true
  | .float _ => true
  | _ => false

/-- The order of numbers; a NaN stands before and after everything. -/
def leNumber (a b : Data) : Bool :=
  match a.number?, b.number? with
  | some x, some y => x.le y
  | _, _ => true

/-- Whether a number is another one or a smaller one; a NaN is neither. -/
def atMost (a b : Data) : Bool := a.number?.isSome && b.number?.isSome && leNumber a b

/-- The word of a value that is not a number. -/
def nan? : Data → Option Binary64
  | .float x => if x.form == .nan then some x else none
  | _ => none

/-- Equality of scalars; a NaN is equal to the NaN of the same word only. -/
def sameScalar (a b : Data) : Bool :=
  match a, b with
  | .null, .null => true
  | .str s, .str t => s == t
  | .bytes s, .bytes t => s == t
  | .moment m, .moment n => m.same n
  | _, _ =>
    match a.number?, b.number? with
    | some x, some y => x.same y
    | _, _ => a.nan?.isSome && a.nan? == b.nan?

def sameMembers (xs ys : List Data) : Bool :=
  xs.length == ys.length && xs.all fun x => ys.any (sameScalar x)

mutual
/-- Equality of values: numbers by value, sequences item by item, mappings by key. -/
def same : Data → Data → Bool
  | .list xs, .list ys => sameItems xs ys
  | .tuple xs, .tuple ys => sameItems xs ys
  | .set xs, .set ys => sameMembers xs ys
  | .map xs, .map ys => xs.length == ys.length && sameEntries xs ys
  | .list _, _ => false
  | .tuple _, _ => false
  | .set _, _ => false
  | .map _, _ => false
  | a, b => sameScalar a b
termination_by structural x => x

def sameItems : List Data → List Data → Bool
  | [], [] => true
  | x :: xs, y :: ys => x.same y && sameItems xs ys
  | _, _ => false
termination_by structural x => x
/-- Every entry has an equal one on the other side. -/
def sameEntries : List (Data × Data) → List (Data × Data) → Bool
  | [], _ => true
  | (k, v) :: rest, ys =>
    (match ys.find? (fun e => sameScalar k e.1) with
      | some e => v.same e.2
      | none => false) && sameEntries rest ys
termination_by structural x => x
end

instance : BEq Data := ⟨same⟩

mutual
/-- Whether one value stands before or beside another; `none` when they have no common order. -/
def le? : Data → Data → Option Bool
  | .str s, .str t => some (decide (s ≤ t))
  | .bytes s, .bytes t => some (decide (s ≤ t))
  | .moment m, .moment n => m.le? n
  | .list xs, .list ys => leItems? xs ys
  | .tuple xs, .tuple ys => leItems? xs ys
  | a, b => if a.isNumeric && b.isNumeric then some (leNumber a b) else none
termination_by structural x => x
/-- The order of sequences: the first unequal items decide. -/
def leItems? : List Data → List Data → Option Bool
  | [], _ => some true
  | _ :: _, [] => some false
  | x :: xs, y :: ys => if x.same y then leItems? xs ys else x.le? y
termination_by structural x => x
end

def find? (entries : List (Data × Data)) (key : Data) : Option Data :=
  (entries.find? fun e => e.1.same key).map (·.2)

/-- The value under a text key. -/
def field? (entries : List (Data × Data)) (key : String) : Option Data :=
  find? entries (.str key)

/-- Sets the value under a key, in place if the key is there already. -/
def put : List (Data × α) → Data → α → List (Data × α)
  | [], key, value => [(key, value)]
  | (k, v) :: rest, key, value =>
    if k.same key then (k, value) :: rest else (k, v) :: put rest key value

/-- The value when it is an integer or a truth value. -/
def integer? : Data → Option Int
  | .int n => some n
  | .bool b => some (if b then 1 else 0)
  | _ => none

def text? : Data → Option String
  | .str s => some s
  | _ => none

/-! ## Lemmas -/

/-- A value found under a key is smaller than the mapping it was found in. -/
theorem sizeOf_find?_lt {entries : List (Data × Data)} {key value : Data}
    (h : find? entries key = some value) : sizeOf value < sizeOf entries := by
  rw [find?, Option.map_eq_some_iff] at h
  obtain ⟨e, he, rfl⟩ := h
  have hmem := List.mem_of_find?_eq_some he
  have hlt := List.sizeOf_lt_of_mem hmem
  have : sizeOf e = 1 + sizeOf e.1 + sizeOf e.2 := rfl
  omega

end Data

end KvMarkup

import KvMarkup.Data.Basic

/-!
# The order of a set

The members of a set stand in the slots of a table, whose number is a power of two and more than
twice theirs, or eight for up to four members.  A number goes to the slot that its residue names, or
from there along a fixed walk to the first free one; the order of the set is that of the slots.
Equal numbers have equal residues, whatever kind they are of.  Only numbers have a residue, and a
set with other members keeps them in the order in which they came.
-/

namespace KvMarkup.Data

open KvMarkup.Number

def residueModulus : Nat := Nat.pow 2 61 - 1

/-- A word of sixty-four bits for a signed residue; minus one stands for minus two. -/
def residueWord (negative : Bool) (residue : Nat) : Nat :=
  if negative then Nat.pow 2 64 - (if residue == 1 then 2 else residue) else residue

/-- The residue of a number.  Two is a root of unity for the modulus, so a negative power of it is a
positive one. -/
def residue? (d : Data) : Option Nat :=
  match d with
  | .bool b => some (if b then 1 else 0)
  | .int n => some (residueWord (n < 0) (n.natAbs % residueModulus) % Nat.pow 2 64)
  | .float x =>
    match x.form with
    | .nan => none
    | .infinite negative => some (residueWord negative 314159)
    | .finite negative m e =>
      let power := (e % 61).toNat
      some (residueWord negative (m * Nat.pow 2 power % residueModulus) % Nat.pow 2 64)
  | _ => none

/-- The least power of two from `size` on that is more than a number. -/
def tableSize (least : Nat) : Nat → Nat → Nat
  | 0, size => size
  | fuel + 1, size => if size ≤ least then tableSize least fuel (2 * size) else size

/-- The slots to be tried from one on: the slot itself, and nine more if the table goes on as far.
-/
def trial (size i : Nat) : List Nat :=
  if i + 10 ≤ size then (List.range 10).map (i + ·) else [i]

/-- The first free slot on the walk of a residue. -/
def freeSlot (table : Array (Option Data)) : Nat → Nat → Nat → Nat
  | 0, i, _ => i
  | fuel + 1, i, rest =>
    match (trial table.size i).find? fun j => (table.getD j none).isNone with
    | some j => j
    | none =>
      let rest := rest / 32
      freeSlot table fuel ((i * 5 + 1 + rest) % table.size) rest

/-- The members of a set in the order in which they are walked through. -/
def setOrder (items : List Data) : List Data :=
  match items.mapM fun d => (residue? d).map fun r => (d, r) with
  | none => items
  | some members =>
    let n := members.length
    let size := if n ≤ 4 then 8 else tableSize (2 * n) n 8
    let table := members.foldl
      (fun (table : Array (Option Data)) m =>
        table.setIfInBounds (freeSlot table (64 + size) (m.2 % size) m.2) (some m.1))
      (Array.replicate size none)
    table.toList.filterMap id

end KvMarkup.Data

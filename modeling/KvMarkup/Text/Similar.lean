/-!
# Names that look alike

Two texts are compared by the length of what they have in common: the longest block that stands in
both, together with what the parts before it and the parts after it have in common.  They look alike
when at least three fifths of their characters are common.
-/

namespace KvMarkup.Text

/-- The number of characters that two texts begin with alike. -/
def commonStart : List Char → List Char → Nat
  | a :: as, b :: bs => if a == b then commonStart as bs + 1 else 0
  | _, _ => 0

structure CommonBlock where
  left : Nat
  right : Nat
  length : Nat

/-- The longest common block, the leftmost of those in the first text and then in the second. -/
def longestBlock (a b : List Char) : CommonBlock :=
  let blocks := (List.range a.length).flatMap fun i =>
    (List.range b.length).map fun j =>
      CommonBlock.mk i j (commonStart (a.drop i) (b.drop j))
  blocks.foldl (fun best x => if x.length > best.length then x else best) ⟨0, 0, 0⟩

/-- The number of characters in common blocks. -/
def commonCount : Nat → List Char → List Char → Nat
  | 0, _, _ => 0
  | fuel + 1, a, b =>
    let block := longestBlock a b
    if block.length == 0 then 0
    else
      block.length + commonCount fuel (a.take block.left) (b.take block.right) +
        commonCount fuel (a.drop (block.left + block.length)) (b.drop (block.right + block.length))

/-- The share of common characters, as common characters and all characters. -/
def likeness (a b : String) : Nat × Nat :=
  (2 * commonCount (a.length + 1) a.toList b.toList, a.length + b.length)

/-- The known names that look like a name, at most three of them, in order. -/
def similarNames (name : String) (known : List String) : List String :=
  let scored := known.map fun k => (k, likeness k name)
  let alike := scored.filter fun s => 3 * s.2.2 ≤ 5 * s.2.1
  let best := alike.mergeSort fun x y =>
    let l := x.2.1 * y.2.2
    let r := y.2.1 * x.2.2
    decide (l > r) || (l == r && decide (y.1 ≤ x.1))
  ((best.take 3).map (·.1)).mergeSort fun x y => decide (x ≤ y)

end KvMarkup.Text

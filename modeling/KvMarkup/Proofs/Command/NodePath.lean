import Mathlib.Data.List.Forall2
import KvMarkup.Command.Run
import KvMarkup.Proofs.Outline.Position
import KvMarkup.Proofs.Text.Lines

/-!
# Paths through an outline

The parts of a path are numbers, and each says which of the nodes at its level comes next, the first
one among the trees of the outline.  A number counts from the front, or, less the number of nodes,
from the end:

    nodeAt symbols path = .ok n ↔ Leads symbols (pathParts path) n            (nodeAt_eq_ok_iff)

A path whose parts spell indices leads to the node at that position of the outline
(`leads_of_spelled`), and so does every path that leads to a node without a negative number in it
(`Leads.exists_spelled`).  A negative number is no index, but leads to a node all the same; this is
the only way in which the two readings differ (`nodeAt_indexed_iff`).
-/

namespace KvMarkup.Command

open KvMarkup.Outline KvMarkup.Text KvMarkup.Number

/-- A number picks a node: the one at this index, or at the index less the number of nodes. -/
def Picks (nodes : List UncheckedNode) (i : Int) (n : UncheckedNode) : Prop :=
  ∃ k : Nat, nodes[k]? = some n ∧ (i = k ∨ i = k - nodes.length)

/-- The parts of a path lead from some nodes to a node: each is a number that picks a node, the first
one of these nodes and each further one a child. -/
inductive Leads : List UncheckedNode → List (List Char) → UncheckedNode → Prop where
  | here {nodes : List UncheckedNode} {part : List Char} {i : Int} {n : UncheckedNode}
      (hi : integer? part = some i) (hn : Picks nodes i n) : Leads nodes [part] n
  | deeper {nodes : List UncheckedNode} {part next : List Char} {rest : List (List Char)} {i : Int}
      {m n : UncheckedNode} (hi : integer? part = some i) (hm : Picks nodes i m)
      (h : Leads m.children (next :: rest) n) : Leads nodes (part :: next :: rest) n

/-- The parts of a path are the numbers of a position. -/
def Spells (parts : List (List Char)) (position : List Nat) : Prop :=
  List.Forall₂ (fun part (k : Nat) => integer? part = some (k : Int)) parts position

/-- The pieces between slashes of what is left of a path without the slashes around it. -/
def Pieces (path : String) (parts : List (List Char)) : Prop :=
  ∃ before inner after,
    path.toList = List.replicate before '/' ++ inner ++ List.replicate after '/' ∧
      inner.head? ≠ some '/' ∧ inner.getLast? ≠ some '/' ∧
      List.intercalate ['/'] parts = inner ∧ ∀ part ∈ parts, '/' ∉ part

/-! ## Picking nodes -/

theorem itemAt?_eq_some_iff {nodes : List UncheckedNode} {i : Int} {n : UncheckedNode} :
    itemAt? nodes i = some n ↔ Picks nodes i n := by
  unfold itemAt? Picks
  constructor
  · intro h
    split at h
    · exact ⟨i.toNat, h, .inl (by omega)⟩
    · split at h
      · exact ⟨(i + nodes.length).toNat, h, .inr (by omega)⟩
      · cases h
  · rintro ⟨k, hk, rfl | rfl⟩
    · rw [if_pos (by omega), Int.toNat_natCast, hk]
    · have hlt : k < nodes.length := (List.getElem?_eq_some_iff.mp hk).1
      rw [if_neg (by omega), if_pos (by omega), Int.sub_add_cancel, Int.toNat_natCast, hk]

/-- A number that is not negative picks the node at its index. -/
theorem Picks.exists_index {nodes : List UncheckedNode} {i : Int} {n : UncheckedNode}
    (h : Picks nodes i n) (hi : 0 ≤ i) : ∃ k : Nat, i = k ∧ nodes[k]? = some n := by
  obtain ⟨k, hk, rfl | rfl⟩ := h
  · exact ⟨k, rfl, hk⟩
  · have hlt : k < nodes.length := (List.getElem?_eq_some_iff.mp hk).1
    omega

/-! ## Following a path -/

theorem mapM_cons_eq_some_iff {part : List Char} {rest : List (List Char)} {is : List Int} :
    (part :: rest).mapM integer? = some is ↔
      ∃ i js, integer? part = some i ∧ rest.mapM integer? = some js ∧ i :: js = is := by
  simp [List.mapM_cons, Option.bind_eq_some_iff]

/-- A path is followed by reading all its numbers and then going from node to node. -/
theorem leads_iff {nodes : List UncheckedNode} {parts : List (List Char)} {n : UncheckedNode} :
    Leads nodes parts n ↔ ∃ is, parts.mapM integer? = some is ∧ follow? nodes is = some n := by
  constructor
  · intro h
    induction h with
    | here hi hn =>
      exact ⟨_, mapM_cons_eq_some_iff.mpr ⟨_, [], hi, rfl, rfl⟩, itemAt?_eq_some_iff.mpr hn⟩
    | @deeper nodes part next rest i m n hi hm _ ih =>
      obtain ⟨is, his, hfollow⟩ := ih
      obtain ⟨j, js, -, -, rfl⟩ := mapM_cons_eq_some_iff.mp his
      refine ⟨i :: j :: js, mapM_cons_eq_some_iff.mpr ⟨i, j :: js, hi, his, rfl⟩, ?_⟩
      rw [follow?, itemAt?_eq_some_iff.mpr hm, Option.bind_some, hfollow]
      nofun
  · rintro ⟨is, his, hfollow⟩
    induction parts generalizing nodes is with
    | nil =>
      obtain rfl : [] = is := Option.some.inj his
      cases hfollow
    | cons part rest ih =>
      obtain ⟨i, js, hi, hjs, rfl⟩ := mapM_cons_eq_some_iff.mp his
      cases rest with
      | nil =>
        obtain rfl : [] = js := Option.some.inj hjs
        exact .here hi (itemAt?_eq_some_iff.mp hfollow)
      | cons next rest =>
        obtain ⟨j, js, -, -, rfl⟩ := mapM_cons_eq_some_iff.mp hjs
        obtain ⟨m, hm, hfollow⟩ := Option.bind_eq_some_iff.mp hfollow
        exact .deeper hi (itemAt?_eq_some_iff.mp hm) (ih _ hjs hfollow)

/-- The node at a position of the outline. -/
theorem leads_of_spelled {nodes : List UncheckedNode} {parts : List (List Char)}
    {position : List Nat} {n : UncheckedNode} (hparts : Spells parts position)
    (h : Node.locate? nodes position = some n) : Leads nodes parts n := by
  induction hparts generalizing nodes with
  | nil => cases h
  | @cons part k rest ks hpart hrest ih =>
    obtain ⟨m, hm, h⟩ := Node.locate?_cons_eq_some.mp h
    have hpick : Picks nodes k m := ⟨k, hm, .inl rfl⟩
    cases hrest with
    | nil =>
      obtain rfl : m = n := Option.some.inj h
      exact .here hpart hpick
    | cons => exact .deeper hpart hpick (ih h)

/-- Without negative numbers, a path that leads to a node spells the position of the node. -/
theorem Leads.exists_spelled {nodes : List UncheckedNode} {parts : List (List Char)}
    {n : UncheckedNode} (h : Leads nodes parts n)
    (hparts : ∀ part ∈ parts, ∀ i, integer? part = some i → 0 ≤ i) :
    ∃ position, Spells parts position ∧ Node.locate? nodes position = some n := by
  induction h with
  | here hi hn =>
    obtain ⟨k, rfl, hk⟩ := hn.exists_index (hparts _ List.mem_cons_self _ hi)
    exact ⟨[k], .cons hi .nil, Node.locate?_cons_eq_some.mpr ⟨_, hk, rfl⟩⟩
  | deeper hi hm _ ih =>
    obtain ⟨k, rfl, hk⟩ := hm.exists_index (hparts _ List.mem_cons_self _ hi)
    obtain ⟨ks, hks, hlocate⟩ := ih fun part hpart => hparts part (List.mem_cons_of_mem _ hpart)
    refine ⟨k :: ks, .cons hi hks, Node.locate?_cons_eq_some.mpr ⟨_, hk, ?_⟩⟩
    cases hks with
    | cons => exact hlocate

theorem Spells.nonneg {parts : List (List Char)} {position : List Nat} (h : Spells parts position) :
    ∀ part ∈ parts, ∀ i, integer? part = some i → 0 ≤ i := by
  induction h with
  | nil => nofun
  | cons hpart _ ih =>
    rw [List.forall_mem_cons]
    refine ⟨fun i hi => ?_, ih⟩
    obtain rfl := Option.some.inj (hpart.symm.trans hi)
    exact Int.natCast_nonneg _

/-! ## Paths -/

section
variable (symbols : List UncheckedNode) (path : String)

theorem pieces_pathParts : Pieces path (pathParts path) := by
  have hslashes : ∀ cs : List Char, ∃ k, cs.takeWhile (· == '/') = List.replicate k '/' := by
    intro cs
    refine ⟨_, List.eq_replicate_iff.mpr ⟨rfl, fun c hc => ?_⟩⟩
    simpa using List.all_eq_true.mp List.all_takeWhile c hc
  have hhead : ∀ cs : List Char, (cs.dropWhile (· == '/')).head? ≠ some '/' := by
    intro cs hhead
    have := List.head?_dropWhile_not (· == '/') cs
    rw [hhead] at this
    simp at this
  set front := path.toList.dropWhile (· == '/') with hfront
  set back := front.reverse.dropWhile (· == '/') with hback
  obtain ⟨before, hbefore⟩ := hslashes path.toList
  obtain ⟨after, hafter⟩ := hslashes front.reverse
  have hparts : pathParts path = back.reverse.splitOn '/' := rfl
  have hend : front = back.reverse ++ List.replicate after '/' := by
    have := List.takeWhile_append_dropWhile (p := (· == '/')) (l := front.reverse)
    rw [hafter, ← hback] at this
    rw [← List.reverse_inj, ← this]
    simp
  refine ⟨before, back.reverse, after, ?_, ?_, ?_, ?_, ?_⟩
  · rw [List.append_assoc, ← hend, ← hbefore, hfront, List.takeWhile_append_dropWhile]
  · intro hinner
    apply hhead path.toList
    rw [← hfront, hend, List.head?_append, hinner, Option.some_or]
  · rw [List.getLast?_reverse]
    exact hhead _
  · rw [hparts, List.intercalate_splitOn]
  · exact fun part hpart => not_mem_of_mem_splitOn hpart

theorem nodeAt?_eq_some_iff {n : UncheckedNode} :
    nodeAt? symbols path = some n ↔ Leads symbols (pathParts path) n := by
  rw [leads_iff]
  exact Option.bind_eq_some_iff

theorem nodeAt_eq_ok_iff {n : UncheckedNode} :
    nodeAt symbols path = .ok n ↔ Leads symbols (pathParts path) n := by
  rw [← nodeAt?_eq_some_iff]
  unfold nodeAt
  split
  · next m hm => rw [hm, Except.ok.injEq, Option.some.injEq]
  · next hnone => simp [hnone]

/-- The node that a path leads to when each of its parts is an index. -/
def Indexed (n : UncheckedNode) : Prop :=
  ∃ position, Spells (pathParts path) position ∧ Node.locate? symbols position = some n

/-- **Where paths lead.**  A path is taken apart at its slashes.  It leads to a node when its parts
are numbers that pick nodes level by level, and it is refused with a message otherwise.  A path whose
parts are the indices of a node leads to that node.  It leads to no other node unless one of its
parts is a negative number: such a number counts from the end. -/
theorem nodeAt_indexed_iff :
    Pieces path (pathParts path) ∧
    (∀ n, nodeAt symbols path = .ok n ↔ Leads symbols (pathParts path) n) ∧
    ((¬∃ n, Leads symbols (pathParts path) n) →
      nodeAt symbols path = .error (.failed ("No outline node at path " ++ quote path))) ∧
    (∀ n, Indexed symbols path n → nodeAt symbols path = .ok n) ∧
    ((∀ n, nodeAt symbols path = .ok n → Indexed symbols path n) ↔
      ((∃ n, nodeAt symbols path = .ok n) →
        ∀ part ∈ pathParts path, ∀ i, integer? part = some i → 0 ≤ i)) := by
  refine ⟨pieces_pathParts path, fun n => nodeAt_eq_ok_iff symbols path, ?_, ?_, ?_, ?_⟩
  · intro hnone
    have hnowhere : ∀ n, nodeAt symbols path ≠ .ok n := fun n hn =>
      hnone ⟨n, (nodeAt_eq_ok_iff symbols path).mp hn⟩
    unfold nodeAt at hnowhere ⊢
    split
    · next n hn =>
      rw [hn] at hnowhere
      exact absurd rfl (hnowhere n)
    · rfl
  · rintro n ⟨position, hparts, hlocate⟩
    exact (nodeAt_eq_ok_iff symbols path).mpr (leads_of_spelled hparts hlocate)
  · rintro hindexed ⟨n, hn⟩
    obtain ⟨position, hparts, -⟩ := hindexed n hn
    exact hparts.nonneg
  · intro hnonneg n hn
    exact ((nodeAt_eq_ok_iff symbols path).mp hn).exists_spelled (hnonneg ⟨n, hn⟩)

end

/-! ## A path from the end -/

/-- An outline of two rules. -/
def twoRules : List UncheckedNode :=
  [node (.str "A") .rule "rule" (.int 1) [], node (.str "B") .rule "rule" (.int 2) []]

/-- The last rule has no negative index, but a negative number leads to it. -/
theorem nodeAt_negative :
    nodeAt twoRules "-1" = .ok (node (.str "B") .rule "rule" (.int 2) []) ∧
      ¬∃ n, Indexed twoRules "-1" n := by
  have hparts : pathParts "-1" = [['-', '1']] := by decide
  have hnumber : integer? ['-', '1'] = some (-1) := by decide
  constructor
  · rw [nodeAt_eq_ok_iff, hparts]
    exact .here hnumber ⟨1, rfl, .inr rfl⟩
  · rintro ⟨n, position, hspells, -⟩
    have hnonneg := hspells.nonneg _ (hparts ▸ List.mem_singleton_self _) _ hnumber
    omega

end KvMarkup.Command

import Mathlib.Data.List.Pairwise
import KvMarkup.Proofs.Outline.Walk

/-!
# Outlines in the order of their lines

A node is *in place* when it covers one line, its children stand on later lines and each of them
ends before the next one begins; only the value of a property stands on the line of its owner.  An
outline all of whose nodes are in place is *orderly*, and following last children finds the end of
everything in it:

    x ∈ n.walk → n.line ≤ x.line ∧ x.line ≤ x.lastLine ∧ x.lastLine ≤ n.lastLine
    n.walk.Pairwise (·.line ≤ ·.line)                                  (Orderly.pairwise_walk)

Two nodes of an orderly outline share a line only if one of them lies below the other (`Related`).
-/

namespace KvMarkup.Outline.Node

variable {ν : Type}

/-- The node is the value of its owner, on the owner's line and with nothing beside or below it. -/
structure IsValueOf (c n : Node ν Int) : Prop where
  kind_eq : c.kind = .value
  line_eq : c.line = n.line
  children_eq : c.children = []
  only_child : n.children = [c]

/-- A node that covers one line, with its children on later lines, one after another. -/
structure InPlace (n : Node ν Int) : Prop where
  stop_eq : n.range.stop.line = n.line
  below : ∀ c ∈ n.children, n.line < c.line ∨ c.IsValueOf n
  inOrder : n.children.Pairwise fun a b => a.lastLine < b.line

/-- An outline all of whose nodes are in place. -/
def Orderly (n : Node ν Int) : Prop := ∀ x ∈ n.walk, x.InPlace

/-- Two nodes that have no line in common from the first to the last line of each. -/
def Apart (a b : Node ν Int) : Prop := a.lastLine < b.line ∨ b.lastLine < a.line

instance : Std.Symm (@Apart ν) := ⟨fun _ _ h => Or.symm h⟩

/-- Two nodes of which one lies below the other, or which are apart. -/
def Related (a b : Node ν Int) : Prop := b ∈ a.walk ∨ a ∈ b.walk ∨ a.Apart b

theorem InPlace.line_le {n c : Node ν Int} (h : n.InPlace) (hc : c ∈ n.children) :
    n.line ≤ c.line := by
  rcases h.below c hc with hlt | hv
  · omega
  · exact Int.le_of_eq hv.line_eq.symm

theorem InPlace.lastLine_cases {n : Node ν Int} (h : n.InPlace) :
    n.children = [] ∧ n.lastLine = n.line ∨
      ∃ c, n.children.getLast? = some c ∧ n.lastLine = c.lastLine := by
  cases hlast : n.children.getLast? with
  | none =>
    have hnil := List.getLast?_eq_none_iff.mp hlast
    refine .inl ⟨hnil, ?_⟩
    rw [lastLine_eq, hnil, lastLineOr, h.stop_eq]
  | some c => exact .inr ⟨c, rfl, lastLine_of_getLast? hlast⟩

namespace Orderly

variable {n : Node ν Int}

theorem inPlace (h : Orderly n) : n.InPlace := h n (self_mem_walk n)

theorem child (h : Orderly n) {c : Node ν Int} (hc : c ∈ n.children) : Orderly c :=
  fun x hx => h x (mem_walk_of_child hc hx)

theorem of_mem (h : Orderly n) {x : Node ν Int} (hx : x ∈ n.walk) : Orderly x :=
  fun y hy => h y (mem_walk_trans hx hy)

theorem of_children (h : n.InPlace) (hc : ∀ c ∈ n.children, Orderly c) : Orderly n := by
  intro x hx
  rcases mem_walk.mp hx with rfl | ⟨c, hmem, hx⟩
  · exact h
  · exact hc c hmem x hx

/-! ## First and last lines -/

theorem line_le (h : Orderly n) {x : Node ν Int} (hx : x ∈ n.walk) : n.line ≤ x.line := by
  induction n using Node.induction with
  | step n ih =>
    rcases mem_walk.mp hx with rfl | ⟨c, hc, hx⟩
    · exact Int.le_refl _
    · exact Int.le_trans (h.inPlace.line_le hc) (ih c hc (h.child hc) hx)

theorem line_le_lastLine (h : Orderly n) : n.line ≤ n.lastLine := by
  induction n using Node.induction with
  | step n ih =>
    rcases h.inPlace.lastLine_cases with ⟨-, hl⟩ | ⟨c, hlast, hl⟩
    · omega
    · have hc := List.mem_of_getLast? hlast
      have h1 := h.inPlace.line_le hc
      have h2 := ih c hc (h.child hc)
      omega

/-- No child ends after the last one. -/
theorem lastLine_child_le (h : Orderly n) {c : Node ν Int} (hc : c ∈ n.children) :
    c.lastLine ≤ n.lastLine := by
  rcases h.inPlace.lastLine_cases with ⟨hnil, -⟩ | ⟨d, hlast, hl⟩
  · rw [hnil] at hc
    cases hc
  · obtain ⟨ys, hys⟩ := List.getLast?_eq_some_iff.mp hlast
    have hd := (h.child (List.mem_of_getLast? hlast)).line_le_lastLine
    have hpair := h.inPlace.inOrder
    rw [hys, List.pairwise_append] at hpair
    rw [hys, List.mem_append, List.mem_singleton] at hc
    rcases hc with hc | rfl
    · have := hpair.2.2 c hc d (List.mem_singleton.mpr rfl)
      omega
    · omega

theorem lastLine_le (h : Orderly n) {x : Node ν Int} (hx : x ∈ n.walk) :
    x.lastLine ≤ n.lastLine := by
  induction n using Node.induction with
  | step n ih =>
    rcases mem_walk.mp hx with rfl | ⟨c, hc, hx⟩
    · exact Int.le_refl _
    · exact Int.le_trans (ih c hc (h.child hc) hx) (h.lastLine_child_le hc)

theorem line_le_lastLine_of_mem (h : Orderly n) {x : Node ν Int} (hx : x ∈ n.walk) :
    x.line ≤ n.lastLine := by
  have h1 := (h.of_mem hx).line_le_lastLine
  have h2 := h.lastLine_le hx
  omega

/-- The last line of a subtree is the line of one of its nodes. -/
theorem exists_line_eq_lastLine (h : Orderly n) : ∃ x ∈ n.walk, x.line = n.lastLine := by
  induction n using Node.induction with
  | step n ih =>
    rcases h.inPlace.lastLine_cases with ⟨-, hl⟩ | ⟨c, hlast, hl⟩
    · exact ⟨n, self_mem_walk n, hl.symm⟩
    · have hc := List.mem_of_getLast? hlast
      obtain ⟨x, hx, hxl⟩ := ih c hc (h.child hc)
      exact ⟨x, mem_walk_of_child hc hx, hxl.trans hl.symm⟩

/-- A new child goes right after the last line of the subtree. -/
theorem insertionLine_eq (h : Orderly n) : n.insertionLine = n.lastLine := by
  rw [insertionLine, lastLine_eq, h.inPlace.stop_eq]

/-! ## Two nodes of one outline -/

/-- The lines of one subtree come before those of another that begins after it ends. -/
theorem lastLine_lt_of_lt {a b : Node ν Int} (ha : Orderly a) (hb : Orderly b)
    (hlt : a.lastLine < b.line) {x y : Node ν Int} (hx : x ∈ a.walk) (hy : y ∈ b.walk) :
    x.lastLine < y.line := by
  have h1 := ha.lastLine_le hx
  have h2 := hb.line_le hy
  omega

/-- A walk goes down the lines. -/
theorem pairwise_walk (h : Orderly n) : n.walk.Pairwise fun a b => a.line ≤ b.line := by
  induction n using Node.induction with
  | step n ih =>
    rw [walk_eq, List.pairwise_cons, walkAll_eq_flatMap, List.pairwise_flatMap]
    refine ⟨fun x hx => ?_, fun c hc => ih c hc (h.child hc), ?_⟩
    · rw [← walkAll_eq_flatMap] at hx
      exact h.line_le (by rw [walk_eq]; exact List.mem_cons_of_mem n hx)
    · refine h.inPlace.inOrder.imp_of_mem fun {a b} ha hb hlt x hx y hy => ?_
      have h1 := lastLine_lt_of_lt (h.child ha) (h.child hb) hlt hx hy
      have h2 := ((h.child ha).of_mem hx).line_le_lastLine
      omega

end Orderly

/-- Nodes of trees that are apart are apart, so all nodes of a forest are related if those of each
of its trees are. -/
theorem related_of_forest {ns : List (Node ν Int)} (ho : ∀ n ∈ ns, Orderly n)
    (ha : ns.Pairwise Apart) (hr : ∀ n ∈ ns, ∀ x ∈ n.walk, ∀ y ∈ n.walk, Related x y)
    {x y : Node ν Int} (hx : x ∈ walkAll ns) (hy : y ∈ walkAll ns) : Related x y := by
  obtain ⟨n, hn, hx⟩ := mem_walkAll.mp hx
  obtain ⟨k, hk, hy⟩ := mem_walkAll.mp hy
  by_cases hnk : n = k
  · subst hnk
    exact hr n hn x hx y hy
  · rcases ha.forall hn hk hnk with hlt | hlt
    · exact .inr (.inr (.inl (Orderly.lastLine_lt_of_lt (ho n hn) (ho k hk) hlt hx hy)))
    · exact .inr (.inr (.inr (Orderly.lastLine_lt_of_lt (ho k hk) (ho n hn) hlt hy hx)))

theorem Orderly.related {n : Node ν Int} (h : Orderly n) :
    ∀ x ∈ n.walk, ∀ y ∈ n.walk, Related x y := by
  induction n using Node.induction with
  | step n ih =>
    intro x hx y hy
    rcases mem_walk.mp hx with rfl | ⟨c, hc, hxc⟩
    · exact .inl hy
    · rcases mem_walk.mp hy with rfl | ⟨d, hd, hyd⟩
      · exact .inr (.inl hx)
      · exact related_of_forest (fun c hc => h.child hc) (h.inPlace.inOrder.imp .inl)
          (fun c hc => ih c hc (h.child hc)) (mem_walkAll.mpr ⟨c, hc, hxc⟩)
          (mem_walkAll.mpr ⟨d, hd, hyd⟩)

/-- Only the value of a node stands below it on the node's own line. -/
theorem Orderly.isValueOf {n x : Node ν Int} (h : Orderly n) (hx : x ∈ n.walk) (hne : x ≠ n)
    (hl : x.line ≤ n.line) : x.IsValueOf n := by
  rcases mem_walk.mp hx with rfl | ⟨c, hc, hx⟩
  · exact absurd rfl hne
  · have hcx := (h.child hc).line_le hx
    rcases h.inPlace.below c hc with hlt | hv
    · omega
    · -- a value has nothing below it
      rcases mem_walk.mp hx with rfl | ⟨d, hd, -⟩
      · exact hv
      · rw [hv.children_eq] at hd
        cases hd

end KvMarkup.Outline.Node

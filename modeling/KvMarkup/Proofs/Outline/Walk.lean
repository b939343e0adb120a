import KvMarkup.Outline.Node

/-!
# Walking an outline

The walk of a node is the node with the walks of its children, and the line a subtree ends on is
that of its last child, or the end of its own range without children:

    x ∈ n.walk ↔ x = n ∨ ∃ c ∈ n.children, x ∈ c.walk                                (mem_walk)
    n.children.getLast? = some c → n.lastLine = c.lastLine                (lastLine_of_getLast?)

What holds of a node whenever it holds of its children holds of every node (`Node.induction`).
-/

namespace KvMarkup.Outline.Node

variable {ν ℓ : Type}

/-! ## The nodes of a walk -/

theorem walk_eq (n : Node ν ℓ) : n.walk = n :: walkAll n.children := by
  cases n
  rfl

theorem walkAll_eq_flatMap (ns : List (Node ν ℓ)) : walkAll ns = ns.flatMap walk := by
  induction ns with
  | nil => rfl
  | cons n ns ih => rw [walkAll, ih, List.flatMap_cons]

theorem mem_walkAll {ns : List (Node ν ℓ)} {x : Node ν ℓ} :
    x ∈ walkAll ns ↔ ∃ n ∈ ns, x ∈ n.walk := by
  rw [walkAll_eq_flatMap, List.mem_flatMap]

theorem mem_walk {n x : Node ν ℓ} : x ∈ n.walk ↔ x = n ∨ ∃ c ∈ n.children, x ∈ c.walk := by
  rw [walk_eq, List.mem_cons, mem_walkAll]

theorem self_mem_walk (n : Node ν ℓ) : n ∈ n.walk := mem_walk.mpr (.inl rfl)

theorem mem_walk_of_child {n c x : Node ν ℓ} (hc : c ∈ n.children) (hx : x ∈ c.walk) :
    x ∈ n.walk :=
  mem_walk.mpr (.inr ⟨c, hc, hx⟩)

/-- What holds of a node whenever it holds of its children holds of every node. -/
@[elab_as_elim]
theorem induction {motive : Node ν ℓ → Prop}
    (step : ∀ n, (∀ c ∈ n.children, motive c) → motive n) (n : Node ν ℓ) : motive n :=
  step n fun c _ => induction step c
termination_by sizeOf n
decreasing_by
  have hlt := List.sizeOf_lt_of_mem ‹c ∈ n.children›
  cases n
  simp only [Node.mk.sizeOf_spec] at hlt ⊢
  omega

theorem mem_walk_trans {n x y : Node ν ℓ} (hx : x ∈ n.walk) (hy : y ∈ x.walk) : y ∈ n.walk := by
  induction n using Node.induction with
  | step n ih =>
    rcases mem_walk.mp hx with rfl | ⟨c, hc, hx⟩
    · exact hy
    · exact mem_walk_of_child hc (ih c hc hx)

/-! ## The line a subtree ends on -/

theorem lastLine_eq (n : Node ν ℓ) : n.lastLine = lastLineOr n.range.stop.line n.children := by
  cases n
  rfl

theorem lastLineOr_of_getLast? {ns : List (Node ν ℓ)} {n : Node ν ℓ}
    (h : ns.getLast? = some n) (own : ℓ) : lastLineOr own ns = n.lastLine := by
  induction ns generalizing own with
  | nil => cases h
  | cons m ns ih =>
    rw [lastLineOr]
    cases ns with
    | nil =>
      obtain rfl := Option.some.inj h
      rfl
    | cons m' ns =>
      rw [List.getLast?_cons_cons] at h
      exact ih h m.lastLine

theorem lastLine_of_getLast? {n c : Node ν ℓ} (h : n.children.getLast? = some c) :
    n.lastLine = c.lastLine := by
  rw [lastLine_eq, lastLineOr_of_getLast? h]

/-- A new child goes right after the last one. -/
theorem insertionLine_of_getLast? {n c : Node ν ℓ} (h : n.children.getLast? = some c) :
    n.insertionLine = c.lastLine :=
  lastLineOr_of_getLast? h n.line

/-- The last line of the last child, or the node's own line without children. -/
theorem insertionLine_eq_getLast? (n : Node ν ℓ) :
    n.insertionLine = (n.children.getLast?.map (·.extent.2)).getD n.line := by
  cases h : n.children.getLast? with
  | none =>
    rw [insertionLine, List.getLast?_eq_none_iff.mp h]
    rfl
  | some c => exact insertionLine_of_getLast? h

end KvMarkup.Outline.Node

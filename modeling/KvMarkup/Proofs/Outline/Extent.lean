import KvMarkup.Proofs.Outline.Depiction
import KvMarkup.Proofs.Outline.Orderly

/-!
# The extents of an outline

A node that depicts a part has the part's lines and those of everything below it, in some order.  If
the document is well nested then sorting by line puts every node in place, so the outline is
orderly, and the extent of a node, found by following last children, is that of its part:

    Depicts p n → p.WellNested → n.Orderly                                     (Depicts.orderly)
    Depicts p n → n.Orderly → n.extent = p.extent                            (Depicts.extent_eq)

So the extents in the outline of a well-nested document are exact (`extents_exact`).
-/

namespace KvMarkup.Outline

open KvMarkup.Parsed

theorem exists_of_mem_right {α β : Type} {R : α → β → Prop} {as : List α} {bs : List β}
    (h : List.Forall₂ R as bs) {b : β} (hb : b ∈ bs) : ∃ a ∈ as, R a b := by
  induction h with
  | nil => cases hb
  | cons hr _ ih =>
    rcases List.mem_cons.mp hb with rfl | hb
    · exact ⟨_, List.mem_cons_self, hr⟩
    · obtain ⟨a, ha, hr⟩ := ih hb
      exact ⟨a, List.mem_cons_of_mem _ ha, hr⟩

theorem exists_of_mem_left {α β : Type} {R : α → β → Prop} {as : List α} {bs : List β}
    (h : List.Forall₂ R as bs) {a : α} (ha : a ∈ as) : ∃ b ∈ bs, R a b :=
  exists_of_mem_right h.flip ha

namespace Depicts

variable {p : Part String Int} {n : Node String Int}

theorem line_eq (h : Depicts p n) : n.line = p.line := by
  obtain ⟨-, -, hrange, -, -, -⟩ := h
  rw [Node.line, hrange]

theorem stop_eq (h : Depicts p n) : n.range.stop.line = n.line := by
  obtain ⟨-, -, hrange, -, -, -⟩ := h
  rw [Node.line, hrange]

/-- A node has its part's value below it and nothing else, or the nodes of what the part owns. -/
theorem children_cases (h : Depicts p n) :
    (∃ value, p.owned = [] ∧ n.children = [valueOn p.line value]) ∨
      ∃ ns, List.Forall₂ Depicts p.owned ns ∧ SortedByLine ns n.children := by
  obtain ⟨-, -, -, -, howned, hsorted⟩ := h
  cases p with
  | property p =>
    obtain rfl := List.forall₂_nil_left_iff.mp howned
    by_cases hv : p.value = ""
    · simp only [valueNodes, hv, if_true] at hsorted
      exact .inr ⟨[], howned, hsorted⟩
    · simp only [valueNodes, hv, if_false] at hsorted
      exact .inl ⟨p.value, rfl, hsorted.eq_of_length_le_one (Nat.le_refl 1)⟩
  | _ => exact .inr ⟨_, howned, hsorted⟩

/-! ## The lines of a node and those of its part -/

theorem exists_part (h : Depicts p n) {x : Node String Int} (hx : x ∈ n.walk) :
    ∃ q ∈ p.all, q.line = x.line := by
  induction p using Part.induction generalizing n with
  | step p ih =>
    rcases Node.mem_walk.mp hx with rfl | ⟨c, hc, hx⟩
    · exact ⟨p, p.self_mem_all, h.line_eq.symm⟩
    · rcases h.children_cases with ⟨value, -, hvalue⟩ | ⟨ns, howned, hsorted⟩
      · -- the value stands on the line of its part
        rw [hvalue, List.mem_singleton] at hc
        subst hc
        rcases Node.mem_walk.mp hx with rfl | ⟨d, hd, -⟩
        · exact ⟨p, p.self_mem_all, rfl⟩
        · cases hd
      · obtain ⟨r, hr, hd⟩ := exists_of_mem_right howned (hsorted.perm.mem_iff.mp hc)
        obtain ⟨q, hq, hl⟩ := ih r hr hd hx
        exact ⟨q, Part.mem_all_of_mem_owned hr hq, hl⟩

theorem exists_node (h : Depicts p n) {q : Part String Int} (hq : q ∈ p.all) :
    ∃ x ∈ n.walk, x.line = q.line := by
  induction p using Part.induction generalizing n with
  | step p ih =>
    rcases Part.mem_all.mp hq with rfl | ⟨r, hr, hq⟩
    · exact ⟨n, n.self_mem_walk, h.line_eq⟩
    · rcases h.children_cases with ⟨-, hnil, -⟩ | ⟨ns, howned, hsorted⟩
      · rw [hnil] at hr
        cases hr
      · obtain ⟨c, hc, hd⟩ := exists_of_mem_left howned hr
        obtain ⟨x, hx, hl⟩ := ih r hr hd hq
        exact ⟨x, Node.mem_walk_of_child (hsorted.perm.mem_iff.mpr hc) hx, hl⟩

/-- The extent of an orderly node is that of its part. -/
theorem extent_eq (h : Depicts p n) (ho : n.Orderly) : n.extent = p.extent := by
  obtain ⟨x, hx, hxl⟩ := ho.exists_line_eq_lastLine
  obtain ⟨q, hq, hql⟩ := h.exists_part hx
  obtain ⟨r, hr, hrl⟩ := p.exists_line_eq_lastLine
  obtain ⟨y, hy, hyl⟩ := h.exists_node hr
  have h1 := Part.line_le_lastLine hq
  have h2 := ho.line_le_lastLine_of_mem hy
  rw [Node.extent, Part.extent, h.line_eq, show n.lastLine = p.lastLine by omega]

end Depicts

/-! ## The outline of a well-nested document -/

theorem map_extent_eq {ps : List (Part String Int)} {ns : List (Node String Int)}
    (h : List.Forall₂ Depicts ps ns) (ho : ∀ n ∈ ns, n.Orderly) :
    ps.map Part.extent = ns.map Node.extent := by
  induction h with
  | nil => rfl
  | cons hd _ ih =>
    rw [List.map_cons, List.map_cons, hd.extent_eq (ho _ List.mem_cons_self),
      ih fun n hn => ho n (List.mem_cons_of_mem _ hn)]

/-- Nodes are apart where the parts that they depict are. -/
theorem pairwise_apart {ps : List (Part String Int)} {ns : List (Node String Int)}
    (h : List.Forall₂ Depicts ps ns) (ho : ∀ n ∈ ns, n.Orderly) (ha : ps.Pairwise Part.Apart) :
    ns.Pairwise Node.Apart := by
  have hext : (ps.map Part.extent).Pairwise fun a b => a.2 < b.1 ∨ b.2 < a.1 :=
    List.pairwise_map.mpr ha
  rw [map_extent_eq h ho, List.pairwise_map] at hext
  exact hext

theorem orderly_valueOn (line : Int) (value : String) : (valueOn line value).Orderly :=
  Node.Orderly.of_children ⟨rfl, fun _ hc => absurd hc List.not_mem_nil, .nil⟩
    fun _ hc => absurd hc List.not_mem_nil

/-- Sorted siblings that are apart come one after another. -/
theorem inOrder_of_sorted {ns : List (Node String Int)}
    (hs : ns.Pairwise fun a b => a.line ≤ b.line) (ha : ns.Pairwise Node.Apart)
    (ho : ∀ n ∈ ns, n.Orderly) :
    ns.Pairwise fun a b => a.lastLine < b.line := by
  refine (hs.and ha).imp_of_mem fun {a b} _ hb ⟨hle, hapart⟩ => ?_
  have := (ho b hb).line_le_lastLine
  rcases hapart with h | h <;> omega

theorem Depicts.orderly {p : Part String Int} {n : Node String Int} (h : Depicts p n)
    (hw : p.WellNested) : n.Orderly := by
  induction p using Part.induction generalizing n with
  | step p ih =>
    obtain ⟨hbelow, hapart⟩ := hw p p.self_mem_all
    rcases h.children_cases with ⟨value, -, hvalue⟩ | ⟨ns, howned, hsorted⟩
    · have hchild : ∀ c ∈ n.children, c = valueOn p.line value := by
        rw [hvalue]
        exact fun c hc => List.mem_singleton.mp hc
      refine .of_children ⟨h.stop_eq, fun c hc => .inr ?_, ?_⟩ fun c hc => ?_
      · rw [hchild c hc]
        exact ⟨rfl, h.line_eq.symm, rfl, hvalue⟩
      · rw [hvalue]
        exact List.pairwise_singleton _ _
      · rw [hchild c hc]
        exact orderly_valueOn p.line value
    · have hns : ∀ c ∈ ns, c.Orderly := by
        intro c hc
        obtain ⟨q, hq, hd⟩ := exists_of_mem_right howned hc
        exact ih q hq hd (hw.of_mem_owned hq)
      have hchildren : ∀ c ∈ n.children, c.Orderly :=
        fun c hc => hns c (hsorted.perm.mem_iff.mp hc)
      have hpair : n.children.Pairwise Node.Apart :=
        (pairwise_apart howned hns hapart).perm hsorted.perm.symm fun h => Or.symm h
      refine .of_children ⟨h.stop_eq, fun c hc => .inl ?_,
        inOrder_of_sorted hsorted.pairwise hpair hchildren⟩ hchildren
      obtain ⟨q, hq, hd⟩ := exists_of_mem_right howned (hsorted.perm.mem_iff.mp hc)
      rw [h.line_eq, hd.line_eq]
      exact hbelow q hq

section
variable {m : Module String Int} (hm : m.WellNested) (types : TypeLookup String)
include hm

theorem orderly_ofModule : ∀ n ∈ ofModule types m, n.Orderly := by
  intro n hn
  obtain ⟨p, hp, hd⟩ := exists_of_mem_right (forall₂_ofModule types m) hn
  exact hd.orderly (hm.1 p hp)

theorem apart_ofModule : (ofModule types m).Pairwise Node.Apart :=
  pairwise_apart (forall₂_ofModule types m) (orderly_ofModule hm types) hm.2

theorem orderly_of_mem_outline {n : Node String Int} (hn : n ∈ Node.walkAll (ofModule types m)) :
    n.Orderly := by
  obtain ⟨root, hroot, hn⟩ := Node.mem_walkAll.mp hn
  exact (orderly_ofModule hm types root hroot).of_mem hn

/-- Two nodes of the outline share a line only if one lies below the other. -/
theorem related_of_mem_outline {a b : Node String Int}
    (ha : a ∈ Node.walkAll (ofModule types m)) (hb : b ∈ Node.walkAll (ofModule types m)) :
    a.Related b :=
  Node.related_of_forest (orderly_ofModule hm types) (apart_ofModule hm types)
    (fun n hn => (orderly_ofModule hm types n hn).related) ha hb

end

/-- The extent of a node is exact: it ends on the greatest line below the node, the walk goes down
the lines, and the extents of the children lie in it, one after another. -/
structure ExactExtent (n : Node String Int) : Prop where
  reached : ∃ x ∈ n.walk, x.line = n.extent.2
  greatest : ∀ x ∈ n.walk, x.range.start.line ≤ n.extent.2 ∧ x.range.stop.line ≤ n.extent.2
  descending : (n.walk.map Node.line).Pairwise (· ≤ ·)
  children_disjoint : n.children.Pairwise fun a b => a.extent.2 < b.extent.1
  children_within : ∀ c ∈ n.children,
    n.extent.1 ≤ c.extent.1 ∧ c.extent.1 ≤ c.extent.2 ∧ c.extent.2 ≤ n.extent.2

theorem exactExtent_of_orderly {n : Node String Int} (h : n.Orderly) : ExactExtent n where
  reached := h.exists_line_eq_lastLine
  greatest x hx := by
    have hle := h.line_le_lastLine_of_mem hx
    rw [(h x hx).stop_eq]
    exact ⟨hle, hle⟩
  descending := List.pairwise_map.mpr h.pairwise_walk
  children_disjoint := h.inPlace.inOrder
  children_within c hc :=
    ⟨h.inPlace.line_le hc, (h.child hc).line_le_lastLine, h.lastLine_child_le hc⟩

/-- **Extents are exact.**  In the outline of a well-nested document every node's extent ends on the
greatest line of its subtree, although only last children are followed, walks go down the lines and
the extents of children lie one after another in that of their parent; those of different trees have
no line in common. -/
theorem extents_exact {m : Module String Int} (hm : m.WellNested) (types : TypeLookup String) :
    (∀ n ∈ Node.walkAll (ofModule types m), ExactExtent n) ∧
      (ofModule types m).Pairwise fun a b => a.extent.2 < b.extent.1 ∨ b.extent.2 < a.extent.1 := by
  exact ⟨fun n hn => exactExtent_of_orderly (orderly_of_mem_outline hm types hn),
    apart_ofModule hm types⟩

/-- A rule behind the root, whose parts are not gathered in the order of their lines: a child with a
canvas block stands between two properties. -/
def interleaved : Module String Int where
  rules := [⟨"Late@Label", 11, [⟨"color", "1, 1, 1", 12⟩], [], [], none, none, none⟩]
  root := some
    ⟨"BoxLayout", 1, some "box", [⟨"opacity", "1", 9⟩, ⟨"spacing", "4", 2⟩], [⟨"on_touch", 10⟩],
      [⟨"Label", 3, none, [⟨"text", "'a'", 8⟩], [], [], none,
        some ⟨4, [⟨"Color", 5, [⟨"rgba", "0, 0, 1, 1", 6⟩]⟩, ⟨"Rectangle", 7, []⟩]⟩, none⟩],
      none, none, none⟩

/-- A catalogue that knows no types. -/
def noTypes : TypeLookup String := ⟨fun _ _ => none, fun _ _ => none⟩

theorem extents_exact_interleaved :
    interleaved.WellNested ∧ (ofModule noTypes interleaved).map Node.extent = [(11, 12), (1, 10)] ∧
      (∀ n ∈ Node.walkAll (ofModule noTypes interleaved), ExactExtent n) ∧
      (ofModule noTypes interleaved).Pairwise fun a b =>
        a.extent.2 < b.extent.1 ∨ b.extent.2 < a.extent.1 := by
  have hm : interleaved.WellNested := by decide
  have hext := map_extent_eq (forall₂_ofModule noTypes interleaved) (orderly_ofModule hm noTypes)
  exact ⟨hm, hext.symm.trans (by decide), extents_exact hm noTypes⟩

end KvMarkup.Outline

import Mathlib.Data.Rat.Cast.Order
import KvMarkup.Edit.Unchecked

/-!
# Edits by a well-typed outline

The edits that run take unchecked outlines, and the statements about edits are about well-typed
ones.  On the nodes of a well-typed outline an unchecked edit never fails and is the edit:

    uncheckedMove d (ofTyped s) (t.map ofTyped) w = .ok (move d s t w)     (uncheckedMove_ofTyped)
    uncheckedDropUnder d x (ofTyped t) w = .ok (drop d x (some t) w)  (uncheckedDropUnder_ofTyped)

Comparing a node with the text uses its lines as numbers, and comparing it with another node uses
the equality of data; both are those of integers and of texts here.
-/

namespace KvMarkup

open KvMarkup.Text KvMarkup.Outline

/-! ## Texts and integers among data -/

namespace Data

theorem leNumber_int (a b : Int) : leNumber (.int a) (.int b) = decide (a ≤ b) := by
  show decide ((a : Rat) ≤ (b : Rat)) = decide (a ≤ b)
  rw [Bool.eq_iff_iff, decide_eq_true_iff, decide_eq_true_iff, Int.cast_le]

theorem atMost_int (a b : Int) : atMost (.int a) (.int b) = decide (a ≤ b) := by
  rw [atMost, leNumber_int]
  rfl

theorem beq_int (a b : Int) : (Data.int a == Data.int b) = (a == b) := by
  show (leNumber (.int a) (.int b) && leNumber (.int b) (.int a)) = (a == b)
  rw [leNumber_int, leNumber_int, Bool.eq_iff_iff, Bool.and_eq_true, decide_eq_true_iff,
    decide_eq_true_iff, beq_iff_eq]
  omega

theorem beq_str (s t : String) : (Data.str s == Data.str t) = (s == t) := rfl

end Data

/-! ## Nodes with names and lines of other types -/

namespace Outline.Node

variable {ν ℓ μ κ : Type} {f : ν → μ} {g : ℓ → κ}

theorem line_map (n : Node ν ℓ) : (n.map f g).line = g n.line := by
  cases n
  rfl

mutual
theorem lastLine_map : (n : Node ν ℓ) → (n.map f g).lastLine = g n.lastLine
  | ⟨_, _, range, _, _, children⟩ => by
    rw [map, lastLine, lastLine, mapSpan, lastLineOr_mapAll range.stop.line children]
theorem lastLineOr_mapAll (own : ℓ) :
    (ns : List (Node ν ℓ)) → lastLineOr (g own) (mapAll f g ns) = g (lastLineOr own ns)
  | [] => rfl
  | n :: ns => by
    rw [mapAll, lastLineOr, lastLineOr, lastLine_map n, lastLineOr_mapAll n.lastLine ns]
end

theorem insertionLine_map (n : Node ν ℓ) : (n.map f g).insertionLine = g n.insertionLine := by
  obtain ⟨name, kind, range, selection, detail, children⟩ := n
  exact lastLineOr_mapAll range.start.line children

mutual
theorem walk_map : (n : Node ν ℓ) → (n.map f g).walk = n.walk.map (Node.map f g)
  | ⟨_, _, _, _, _, children⟩ => by
    rw [map, walk, walk, List.map_cons, walkAll_mapAll children, map]
theorem walkAll_mapAll :
    (ns : List (Node ν ℓ)) → walkAll (mapAll f g ns) = (walkAll ns).map (Node.map f g)
  | [] => rfl
  | n :: ns => by
    rw [mapAll, walkAll, walkAll, List.map_append, walk_map n, walkAll_mapAll ns]
end

section
variable [BEq ν] [BEq μ] [BEq ℓ] [BEq κ]

theorem sameSpan_mapSpan (hg : ∀ a b, (g a == g b) = (a == b)) (a b : Span ℓ) :
    sameSpan (mapSpan g a) (mapSpan g b) = sameSpan a b := by
  simp only [sameSpan, mapSpan, hg]

mutual
theorem same_map (hf : ∀ a b, (f a == f b) = (a == b)) (hg : ∀ a b, (g a == g b) = (a == b)) :
    (a b : Node ν ℓ) → (a.map f g).same (b.map f g) = a.same b
  | ⟨_, _, _, _, _, children⟩, ⟨_, _, _, _, _, others⟩ => by
    simp only [map, same, hf, sameSpan_mapSpan hg, sameAll_mapAll hf hg children others]
theorem sameAll_mapAll (hf : ∀ a b, (f a == f b) = (a == b))
    (hg : ∀ a b, (g a == g b) = (a == b)) :
    (as bs : List (Node ν ℓ)) → sameAll (mapAll f g as) (mapAll f g bs) = sameAll as bs
  | [], [] => rfl
  | [], _ :: _ => rfl
  | _ :: _, [] => rfl
  | a :: as, b :: bs => by
    simp only [mapAll, sameAll, same_map hf hg a b, sameAll_mapAll hf hg as bs]
end

/-- Containment does not depend on how names and lines are written, if equality does not. -/
theorem contains_map (hf : ∀ a b, (f a == f b) = (a == b)) (hg : ∀ a b, (g a == g b) = (a == b))
    (x y : Node ν ℓ) : (x.map f g).contains (y.map f g) = x.contains y := by
  rw [contains, contains, walk_map, List.any_map]
  congr 1
  funext z
  exact same_map hf hg z y

end

end Outline.Node

/-! ## Edits -/

namespace Edit

theorem anchorOf_ofTyped (n : Node String Int) : anchorOf (ofTyped n) = .ok (Anchor.ofNode n) := by
  unfold anchorOf ofTyped
  rw [Node.line_map, Node.lastLine_map, Node.insertionLine_map]
  cases n
  rfl

theorem quoted_name_ofTyped (n : Node String Int) : (ofTyped n).name.quoted = quote n.name := by
  cases n
  rfl

/-- A target is reported exactly when it is outside the text. -/
theorem outsideTarget?_ofTyped (count : Nat) (n : Node String Int) :
    outsideTarget? count (ofTyped n) = .ok (if inDocument n.line count then none
      else some (.targetOutside (quote n.name) n.line)) := by
  have hwithin : withinLines count (.int n.line) = inDocument n.line count := by
    rw [withinLines, Data.atMost_int, Data.atMost_int, inDocument]
  have hline : (ofTyped n).line = .int n.line := Node.line_map n
  unfold outsideTarget?
  rw [hline, hwithin, quoted_name_ofTyped]
  split <;> rfl

/-- A source is reported exactly when its extent is not in the text. -/
theorem outsideSource?_ofTyped (count : Nat) (n : Node String Int) :
    outsideSource? count (ofTyped n) = .ok (if extentInDocument n.line n.lastLine count then none
      else some (.sourceOutside (quote n.name) n.line n.lastLine)) := by
  have hline : (ofTyped n).line = .int n.line := Node.line_map n
  have hlast : (ofTyped n).lastLine = .int n.lastLine := Node.lastLine_map n
  have hwithin : extentWithin count (ofTyped n) = extentInDocument n.line n.lastLine count := by
    rw [extentWithin, hline, hlast, Data.leNumber_int, Data.atMost_int, Data.leNumber_int,
      extentInDocument, Bool.eq_iff_iff]
    simp only [Bool.and_eq_true, Bool.not_eq_true', decide_eq_true_eq, decide_eq_false_iff_not]
    omega
  unfold outsideSource?
  rw [hwithin, hline, hlast, quoted_name_ofTyped]
  split <;> rfl

theorem contains_ofTyped (x y : Node String Int) :
    (ofTyped x).contains (ofTyped y) = x.contains y :=
  Node.contains_map Data.beq_str Data.beq_int x y

/-- Moving a well-typed node by the unchecked outline is moving it. -/
theorem uncheckedMove_ofTyped (document : String) (source : Node String Int)
    (target : Option (Node String Int)) (width : Int) :
    uncheckedMove document (ofTyped source) (target.map ofTyped) width =
      .ok (move document source target width) := by
  have hsource := outsideSource?_ofTyped (lines document).length source
  unfold uncheckedMove
  cases target with
  | none =>
    simp only [Option.map_none]
    rw [hsource, anchorOf_ofTyped]
    cases h : extentInDocument source.line source.lastLine (lines document).length with
    | true => rfl
    | false =>
      have hmove : move document source none width =
          ⟨document, [.sourceOutside (quote source.name) source.line source.lastLine]⟩ := by
        simp [move, moveAnchors, Anchor.ofNode, h]
      rw [hmove]
      rfl
  | some target =>
    have htarget := outsideTarget?_ofTyped (lines document).length target
    simp only [Option.map_some]
    rw [contains_ofTyped, hsource, htarget, anchorOf_ofTyped, anchorOf_ofTyped,
      quoted_name_ofTyped, quoted_name_ofTyped]
    -- the checks are made in the order in which the move makes them
    cases hc : source.contains target with
    | true =>
      have hmove : move document source (some target) width =
          ⟨document, [.cycleRefused (quote source.name) (quote target.name)]⟩ := by
        simp [move, moveAnchors, Anchor.ofNode, hc]
      rw [hmove]
      rfl
    | false =>
      cases ht : inDocument target.line (lines document).length with
      | false =>
        have hmove : move document source (some target) width =
            ⟨document, [.targetOutside (quote target.name) target.line]⟩ := by
          simp [move, moveAnchors, Anchor.ofNode, hc, ht]
        rw [hmove]
        rfl
      | true =>
        cases h : extentInDocument source.line source.lastLine (lines document).length with
        | true =>
          rw [move, Option.any_some, hc]
          rfl
        | false =>
          have hmove : move document source (some target) width =
              ⟨document, [.sourceOutside (quote source.name) source.line source.lastLine]⟩ := by
            simp [move, moveAnchors, Anchor.ofNode, hc, ht, h]
          rw [hmove]
          rfl

/-- Dropping under a well-typed node by the unchecked outline is dropping under it. -/
theorem uncheckedDropUnder_ofTyped (document snippet : String) (target : Node String Int)
    (width : Int) :
    uncheckedDropUnder document snippet (ofTyped target) width =
      .ok (drop document snippet (some target) width) := by
  have htarget := outsideTarget?_ofTyped (lines document).length target
  have hline : (ofTyped target).line = .int target.line := Node.line_map target
  have hinsertion : (ofTyped target).insertionLine = .int target.insertionLine :=
    Node.insertionLine_map target
  unfold uncheckedDropUnder
  simp only
  rw [htarget, hline, hinsertion, quoted_name_ofTyped]
  cases ht : inDocument target.line (lines document).length with
  | false =>
    have hdrop : drop document snippet (some target) width =
        ⟨document, [.targetOutside (quote target.name) target.line]⟩ := by
      simp [drop, dropUnder, Anchor.ofNode, ht]
    rw [hdrop]
    rfl
  | true =>
    have hposition : ∀ n : Int, position (.int n) = .ok n := fun _ => rfl
    have hbind : ∀ {α : Type} (a : α) (f : α → Except Fault Edited), (Except.ok a >>= f) = f a :=
      fun _ _ => rfl
    simp only [if_true, hposition, hbind]
    split
    · next hempty =>
      have hdrop : drop document snippet (some target) width = ⟨document, []⟩ :=
        (if_pos ht).trans (if_pos hempty)
      rw [hdrop]
    · rfl

end Edit

end KvMarkup

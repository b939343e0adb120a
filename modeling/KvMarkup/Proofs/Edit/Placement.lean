import KvMarkup.Proofs.Edit.Host
import KvMarkup.Proofs.Edit.Move
import KvMarkup.Proofs.Outline.Walk

/-!
# Where a moved block lands

A move takes its block out first and corrects the place it goes to for the lines that are gone.  For
a block with lines after it, the outcome can be told without any such correction, by the numbers that
the lines had: those up to the place, the block, shifted, and those behind the place.

    lines (move document source target width).text =
      picked 1 (· ≤ place, outside) ls ++ shifted (picked 1 inside ls) ++
        picked 1 (place < ·, outside) ls

The place counts from zero and may lie anywhere outside the block, also past the end of the text
(`splice_landing_eq_picked`).
-/

namespace KvMarkup.Edit

open KvMarkup.Text KvMarkup.Outline

/-! ## Lines picked by their numbers -/

/-- The lines whose numbers, from `start` on, satisfy `p`. -/
def picked (start : Nat) (p : Int → Bool) (ls : List Line) : List Line :=
  ((numbered start ls).filter fun x => p x.1).map (·.2)

theorem picked_append (start : Nat) (p : Int → Bool) (xs ys : List Line) :
    picked start p (xs ++ ys) = picked start p xs ++ picked (start + xs.length) p ys := by
  rw [picked, numbered_append, List.filter_append, List.map_append, picked, picked]

theorem picked_congr {start : Nat} {p q : Int → Bool} {ls : List Line}
    (h : ∀ k : Int, start ≤ k → k < start + ls.length → p k = q k) :
    picked start p ls = picked start q ls := by
  induction ls generalizing start with
  | nil => rfl
  | cons l ls ih =>
    have hhead : p start = q start := h start (Int.le_refl _) (by rw [List.length_cons]; omega)
    have htail : picked (start + 1) p ls = picked (start + 1) q ls :=
      ih fun k h1 h2 => h k (by omega) (by rw [List.length_cons]; omega)
    have hone : picked start p [l] = picked start q [l] := by
      simp only [picked, numbered, List.filter_cons, List.filter_nil, hhead]
    rw [← List.singleton_append, picked_append, picked_append, List.length_singleton, hone, htail]

theorem picked_eq_self {start : Nat} {p : Int → Bool} {ls : List Line}
    (h : ∀ k : Int, start ≤ k → k < start + ls.length → p k = true) : picked start p ls = ls := by
  rw [picked_congr h, picked, List.filter_true, map_snd_numbered]

theorem picked_eq_nil {start : Nat} {p : Int → Bool} {ls : List Line}
    (h : ∀ k : Int, start ≤ k → k < start + ls.length → p k = false) : picked start p ls = [] := by
  rw [picked_congr h, picked, List.filter_false, List.map_nil]

section
variable (p : Int → Bool) (ls : List Line) {position : Int} (h0 : 0 ≤ position)
include h0

/-- Picking among the lines up to a position. -/
theorem picked_upto :
    picked 1 (fun k => k ≤ position && p k) ls = picked 1 p (ls.take position.toNat) := by
  have hlen : (ls.take position.toNat).length = min position.toNat ls.length := List.length_take
  have hupper : picked 1 (fun k => k ≤ position && p k) (ls.take position.toNat) =
      picked 1 p (ls.take position.toNat) := by
    refine picked_congr fun k _ h2 => ?_
    rw [decide_eq_true (show k ≤ position by omega), Bool.true_and]
  have hlower : picked (1 + (ls.take position.toNat).length) (fun k => k ≤ position && p k)
      (ls.drop position.toNat) = [] := by
    refine picked_eq_nil fun k h1 h2 => ?_
    rw [List.length_drop] at h2
    rw [decide_eq_false (show ¬ k ≤ position by omega), Bool.false_and]
  conv => lhs; rw [← List.take_append_drop position.toNat ls]
  rw [picked_append, hupper, hlower, List.append_nil]

/-- Picking among the lines behind a position. -/
theorem picked_behind :
    picked 1 (fun k => position < k && p k) ls =
      picked (1 + (ls.take position.toNat).length) p (ls.drop position.toNat) := by
  have hlen : (ls.take position.toNat).length = min position.toNat ls.length := List.length_take
  have hupper : picked 1 (fun k => position < k && p k) (ls.take position.toNat) = [] := by
    refine picked_eq_nil fun k _ h2 => ?_
    rw [decide_eq_false (show ¬ position < k by omega), Bool.false_and]
  have hlower : picked (1 + (ls.take position.toNat).length) (fun k => position < k && p k)
      (ls.drop position.toNat) =
        picked (1 + (ls.take position.toNat).length) p (ls.drop position.toNat) := by
    refine picked_congr fun k h1 h2 => ?_
    rw [List.length_drop] at h2
    rw [decide_eq_true (show position < k by omega), Bool.true_and]
  conv => lhs; rw [← List.take_append_drop position.toNat ls]
  rw [picked_append, hupper, hlower, List.nil_append]

/-- What is picked up to a position and what is picked behind it is all that is picked. -/
theorem picked_upto_append_behind :
    picked 1 (fun k => k ≤ position && p k) ls ++ picked 1 (fun k => position < k && p k) ls =
      picked 1 p ls := by
  rw [picked_upto p ls h0, picked_behind p ls h0, ← picked_append, List.take_append_drop]

end

/-- The line with a number is the last one picked up to that number. -/
theorem exists_picked_upto {p : Int → Bool} {ls : List Line} {position : Int} (h1 : 1 ≤ position)
    (h2 : position ≤ ls.length) (hp : p position = true) :
    ∃ l, ls[(position - 1).toNat]? = some l ∧
      picked 1 (fun k => k ≤ position && p k) ls =
        picked 1 (fun k => k < position && p k) ls ++ [l] := by
  have hlt : (position - 1).toNat < ls.length := by omega
  have hget : ls[(position - 1).toNat]? = some ls[(position - 1).toNat] :=
    List.getElem?_eq_getElem hlt
  refine ⟨_, hget, ?_⟩
  have hbefore : picked 1 (fun k => k < position && p k) ls =
      picked 1 p (ls.take (position - 1).toNat) := by
    rw [← picked_upto p ls (by omega)]
    refine picked_congr fun k _ _ => ?_
    rw [show decide (k < position) = decide (k ≤ position - 1) from decide_eq_decide.mpr (by omega)]
  have hone : picked (1 + (ls.take (position - 1).toNat).length) p [ls[(position - 1).toNat]] =
      [ls[(position - 1).toNat]] := by
    apply picked_eq_self
    intro k hk1 hk2
    rw [List.length_take] at hk1 hk2
    rw [List.length_singleton] at hk2
    rw [show k = position by omega, hp]
  rw [hbefore, picked_upto p ls (by omega), show position.toNat = (position - 1).toNat + 1 by omega,
    List.take_add_one, hget, Option.toList_some, picked_append, hone]

/-! ## The landing -/

/-- A number among those of an extent. -/
def inExtent (first last k : Int) : Bool := first ≤ k && k ≤ last

theorem inExtent_iff {first last k : Int} :
    inExtent first last k = true ↔ first ≤ k ∧ k ≤ last := by
  simp [inExtent]

theorem inExtent_eq_false_iff {first last k : Int} :
    inExtent first last k = false ↔ k < first ∨ last < k := by
  rw [← Bool.not_eq_true, inExtent_iff]
  omega

namespace Cut

variable (c : Cut)

theorem inExtent_before {k : Int} (h : k < 1 + c.before.length) :
    inExtent c.first c.last k = false := by
  refine inExtent_eq_false_iff.mpr (.inl ?_)
  unfold first
  omega

theorem inExtent_block {k : Int} (h1 : 1 + c.before.length ≤ k)
    (h2 : k < 1 + c.before.length + c.block.length) : inExtent c.first c.last k = true := by
  refine inExtent_iff.mpr ?_
  unfold first last
  omega

theorem inExtent_after {k : Int} (h : 1 + c.before.length + c.block.length ≤ k) :
    inExtent c.first c.last k = false := by
  refine inExtent_eq_false_iff.mpr (.inr ?_)
  unfold last
  omega

/-- Picking among the lines is picking in each of the three parts. -/
theorem picked_lines (p : Int → Bool) : picked 1 p c.lines =
    picked 1 p c.before ++ picked (1 + c.before.length) p c.block ++
      picked (1 + c.before.length + c.block.length) p c.after := by
  rw [lines, picked_append, picked_append, List.length_append, Nat.add_assoc]

theorem picked_inside : picked 1 (inExtent c.first c.last) c.lines = c.block := by
  have hbefore : picked 1 (inExtent c.first c.last) c.before = [] :=
    picked_eq_nil fun k _ h2 => c.inExtent_before (by omega)
  have hblock : picked (1 + c.before.length) (inExtent c.first c.last) c.block = c.block :=
    picked_eq_self fun k h1 h2 => c.inExtent_block (by omega) (by omega)
  have hafter : picked (1 + c.before.length + c.block.length) (inExtent c.first c.last) c.after =
      [] := picked_eq_nil fun k h1 _ => c.inExtent_after (by omega)
  rw [picked_lines, hbefore, hblock, hafter, List.nil_append, List.append_nil]

theorem picked_outside :
    picked 1 (fun k => !inExtent c.first c.last k) c.lines = c.before ++ c.after := by
  have hbefore : picked 1 (fun k => !inExtent c.first c.last k) c.before = c.before := by
    refine picked_eq_self fun k _ h2 => ?_
    rw [c.inExtent_before (by omega), Bool.not_false]
  have hblock : picked (1 + c.before.length) (fun k => !inExtent c.first c.last k) c.block = [] := by
    refine picked_eq_nil fun k h1 h2 => ?_
    rw [c.inExtent_block (by omega) (by omega), Bool.not_true]
  have hafter : picked (1 + c.before.length + c.block.length)
      (fun k => !inExtent c.first c.last k) c.after = c.after := by
    refine picked_eq_self fun k h1 _ => ?_
    rw [c.inExtent_after (by omega), Bool.not_false]
  rw [picked_lines, hbefore, hblock, hafter, List.append_nil]

/-- What is outside the block, up to a position before it, is the lines up to the position. -/
theorem picked_upto_before {position : Int} (h0 : 0 ≤ position) (h : position < c.first) :
    picked 1 (fun k => k ≤ position && !inExtent c.first c.last k) c.lines =
      c.before.take position.toNat := by
  have hle : position.toNat ≤ c.before.length := by
    unfold first at h
    omega
  rw [picked_upto _ _ h0, lines, List.append_assoc, List.take_append_of_le_length hle]
  refine picked_eq_self fun k _ h2 => ?_
  rw [List.length_take] at h2
  rw [c.inExtent_before (by omega), Bool.not_false]

/-- What is outside the block, up to a position after it, is the lines before the block and those
between the block and the position. -/
theorem picked_upto_after {position : Int} (h : c.last ≤ position) :
    picked 1 (fun k => k ≤ position && !inExtent c.first c.last k) c.lines =
      c.before ++ c.after.take (position - c.last).toNat := by
  obtain ⟨j, hj⟩ := Int.le.dest h
  have h0 : 0 ≤ position := by
    unfold last at hj
    omega
  have hlen : position.toNat = (c.before ++ c.block).length + j := by
    rw [List.length_append]
    unfold last at hj
    omega
  rw [picked_upto _ _ h0, hlen, lines, List.take_length_add_append,
    show (position - c.last).toNat = j by omega]
  -- the lines up to the position are cut around the same block
  exact picked_outside ⟨c.before, c.block, c.after.take j, c.block_ne⟩

end Cut

/-- **The correction of the position is right.**  A block with lines after it that goes to a position
outside itself comes between the lines outside it up to that position and those behind it, as they
are numbered with the block in its place. -/
theorem splice_landing_eq_picked {c : Cut} (hne : c.after ≠ []) {position : Int} (h0 : 0 ≤ position)
    (hclear : position < c.first ∨ c.last ≤ position) (run : List Line) :
    splice (c.before ++ c.rest) (landing c position) run =
      picked 1 (fun k => k ≤ position && !inExtent c.first c.last k) c.lines ++ run ++
        picked 1 (fun k => position < k && !inExtent c.first c.last k) c.lines := by
  have hrest : c.before ++ c.rest =
      picked 1 (fun k => k ≤ position && !inExtent c.first c.last k) c.lines ++
        picked 1 (fun k => position < k && !inExtent c.first c.last k) c.lines := by
    rw [picked_upto_append_behind _ _ h0, c.picked_outside, Cut.rest, if_neg (by simp [hne])]
  have hplace : place (c.before ++ c.rest).length (landing c position) =
      (picked 1 (fun k => k ≤ position && !inExtent c.first c.last k) c.lines).length := by
    have hlen : (c.before ++ c.rest).length = c.before.length + c.after.length := by
      rw [Cut.rest, if_neg (by simp [hne]), List.length_append]
    have hland : landing c position =
        if c.last ≤ position then position - c.block.length else position := by
      rw [landing, if_neg (show ¬ c.after.isEmpty = true by simp [hne])]
    rw [hlen, hland]
    have hpos : 0 < c.block.length := List.length_pos_iff.mpr c.block_ne
    rcases hclear with h | h
    -- a place before the block is the same without it; one after it moves up by its length
    · rw [c.picked_upto_before h0 h, List.length_take]
      unfold Cut.first at h
      unfold Cut.last place
      rw [if_neg (by omega), if_neg (by omega)]
      omega
    · rw [c.picked_upto_after h, List.length_append, List.length_take, if_pos h]
      unfold Cut.last at h ⊢
      unfold place
      rw [if_neg (by omega)]
      omega
  rw [hrest] at hplace ⊢
  exact splice_of_place hplace run

/-! ## Moves of a block with lines after it -/

theorem Cut.indentAt_first (c : Cut) :
    indentAt c.lines c.first = leadingBlanks (c.block.headD []) := by
  obtain ⟨l, ls, hl⟩ := List.exists_cons_of_ne_nil c.block_ne
  rw [indentAt, c.toNat_first, Cut.lines, hl, List.append_assoc,
    List.getElem?_append_right (Nat.le_refl _), Nat.sub_self]
  rfl

/-- Without lines in the extent every line is outside it. -/
theorem picked_of_empty_extent (ls : List Line) {first last position : Int} (h : last < first)
    (h0 : 0 ≤ position) :
    picked 1 (inExtent first last) ls = [] ∧
      picked 1 (fun k => k ≤ position && !inExtent first last k) ls ++
        picked 1 (fun k => position < k && !inExtent first last k) ls = ls := by
  have hout : ∀ k, inExtent first last k = false := fun k =>
    inExtent_eq_false_iff.mpr (by omega)
  refine ⟨picked_eq_nil fun k _ _ => hout k, ?_⟩
  rw [picked_upto_append_behind _ _ h0]
  refine picked_eq_self fun k _ _ => ?_
  rw [hout, Bool.not_false]

/-- **A moved block lands where the numbers of the lines say.**  Let the lines of the source be in
the text and not take in its last line, and let the target, which the source does not hold, stand in
the text with its place for a new child outside the source.  After the move, the lines outside the
source up to that place come first, then the source, its first line one level below the target and
the others in step, and then the other lines outside the source.  So the source lands right after
the line that the place is named by: the last line of the target's last child, or the target's own
line. -/
theorem move_interior {document : String} {source target : Node String Int} (width : Int)
    (hstart : 1 ≤ source.line) (hend : source.lastLine < (lines document).length)
    (htarget : inDocument target.line (lines document).length = true)
    (hcycle : source.contains target = false) (h0 : 0 ≤ target.insertionLine)
    (hclear : target.insertionLine < source.line ∨ source.lastLine ≤ target.insertionLine) :
    ∃ upper moved lower,
      lines (move document source (some target) width).text = upper ++ moved ++ lower ∧
      upper = picked 1 (fun k => k ≤ target.insertionLine &&
        !inExtent source.line source.lastLine k) (lines document) ∧
      moved = (picked 1 (inExtent source.line source.lastLine) (lines document)).map (fun l =>
        if isBlank l then []
        else blanks (max 0 (indentAt (lines document) target.line + width + leadingBlanks l -
          indentAt (lines document) source.line)) ++ trim l) ∧
      lower = picked 1 (fun k => target.insertionLine < k &&
        !inExtent source.line source.lastLine k) (lines document) ∧
      target.insertionLine = (target.children.getLast?.map (·.extent.2)).getD target.line ∧
      (1 ≤ target.insertionLine → target.insertionLine ≤ (lines document).length →
        inExtent source.line source.lastLine target.insertionLine = false →
          ∃ l, (lines document)[(target.insertionLine - 1).toNat]? = some l ∧
            upper = picked 1 (fun k => k < target.insertionLine &&
              !inExtent source.line source.lastLine k) (lines document) ++ [l]) := by
  refine ⟨_, _, _, ?_, rfl, rfl, rfl, target.insertionLine_eq_getLast?, fun h1 h2 h3 =>
    exists_picked_upto h1 h2 (by rw [h3, Bool.not_false])⟩
  by_cases hle : source.line ≤ source.lastLine
  · have hext : extentInDocument source.line source.lastLine (lines document).length = true := by
      simp only [extentInDocument, Bool.and_eq_true, decide_eq_true_eq]
      omega
    have hr : isRefused (lines document).length source (some target) = false := by
      rw [isRefused_some, hcycle, htarget, hext]
      rfl
    obtain ⟨c, hc⟩ := exists_cut_around hr
    have hne : c.after ≠ [] := fun h => by
      have := hc.lastLine_eq_iff.mpr h
      omega
    rw [← hc.first_eq, ← hc.last_eq] at hclear
    rw [lines_move_some hc hr, ← hc.lines_eq, ← hc.first_eq, ← hc.last_eq,
      splice_landing_eq_picked hne h0 hclear, c.picked_inside, reindent_eq_map, c.indentAt_first]
    rfl
  · obtain ⟨hinside, houtside⟩ :=
      picked_of_empty_extent (lines document) (show source.lastLine < source.line by omega) h0
    have hr : isRefused (lines document).length source (some target) = true := by
      rw [isRefused_some, extentInDocument]
      simp [hle]
    rw [move_of_refused hr, hinside, List.map_nil, List.append_nil, houtside]

/-! ## A place past the end of the text -/

/-- A widget with a gap in it, followed by a sibling. -/
def gapped : String := "Root:\n    A:\n  \n      x: 1\n    B:\n"

def gappedChild : Node String Int := widgetOn 2 "A" [widgetOn 4 "x" []]

/-- The sibling, with a child on a line that the text does not have. -/
def gappedTarget : Node String Int := widgetOn 5 "B" [widgetOn 9 "y" []]

theorem move_interior_gapped :
    gappedChild.contains gappedTarget = false ∧
      lines (move gapped gappedChild (some gappedTarget) 4).text =
        ["Root:".toList, "    B:".toList, [], "        A:".toList, [], "          x: 1".toList] := by
  have hstart : 1 ≤ gappedChild.line := by decide
  have hend : gappedChild.lastLine < (lines gapped).length := by decide
  have htarget : inDocument gappedTarget.line (lines gapped).length = true := by decide
  have hc : gappedChild.contains gappedTarget = false := by decide
  obtain ⟨upper, moved, lower, hlines, rfl, rfl, rfl, -, -⟩ :=
    move_interior 4 hstart hend htarget hc (by decide) (by decide)
  refine ⟨hc, ?_⟩
  rw [hlines]
  decide

end KvMarkup.Edit

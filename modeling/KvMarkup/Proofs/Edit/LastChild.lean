import KvMarkup.Proofs.Edit.Host
import KvMarkup.Proofs.Edit.Move
import KvMarkup.Proofs.Outline.Walk

/-!
# Moving the last child onto its own parent

The place for a new child of a node is right after its last child (`insertionLine_of_getLast?`).
So the last child, moved onto its parent, goes back to where it was; if it stands one level below
its parent and its lines are neat then they do not change on the way.

What is left once a block is gone decides the rest:

* lines follow the block: it comes back in front of them, and the text is the same;
* the block ends the text: it leaves an empty line behind and comes back after that.

A text that ends with a line feed has an empty last line, so there the first case holds unless the
child takes that line in.
-/

namespace KvMarkup.Edit

open KvMarkup.Text KvMarkup.Outline

/-! ## Back to the same place -/

/-- A block that goes in right after where it was comes back in front of the lines that follow it,
or after the empty line that it left behind. -/
theorem splice_landing_last (c : Cut) (run : List Line) :
    splice (c.before ++ c.rest) (landing c c.last) run =
      c.before ++ (if c.after.isEmpty then [[]] else []) ++ run ++ c.after := by
  by_cases h : c.after = []
  · rw [splice_landing_end c h, if_pos (by simp [h]), h, List.append_nil]
  · have hs := splice_landing_after c (List.nil_append c.after).symm h run
    rw [show c.last + (([] : List Line).length : Int) = c.last from Int.add_zero _] at hs
    rw [hs, if_neg (by simp [h])]

section
variable {document : String} {source target : Node String Int} {c : Cut}
  (hc : c.Around (lines document) source) (hlast : target.children.getLast? = some source)
  (hr : isRefused (lines document).length source (some target) = false)
include hc hlast hr

/-- A last child that moves onto its parent is reindented where it is. -/
theorem lines_move_onto_parent (width : Int) :
    lines (move document source (some target) width).text =
      c.before ++ (if c.after.isEmpty then [[]] else []) ++
        reindent c.block (indentAt (lines document) target.line + width) ++ c.after := by
  rw [lines_move_some hc hr width, Node.insertionLine_of_getLast? hlast, ← hc.last_eq,
    splice_landing_last]

/-- The lines of a text whose last child has moved onto its parent. -/
theorem lines_move_last_child {width : Int} (hneat : ∀ l ∈ c.block, Neat l)
    (hbase : indentAt (lines document) target.line + width = leadingBlanks (c.block.headD [])) :
    lines (move document source (some target) width).text =
      c.before ++ (if c.after.isEmpty then [[]] else []) ++ c.block ++ c.after := by
  rw [lines_move_onto_parent hc hlast hr, reindent_eq_self hneat hbase]

end

/-- **The last child goes back to where it was.**  A move of the last child onto its own parent that
is not refused, where the child stands one level below the parent and its lines are neat, leaves the
document as it is exactly when the child does not end with the document.  Otherwise it puts one
empty line in front of the child. -/
theorem move_last_child_eq_self_iff {document : String} {source target : Node String Int}
    {width : Int} (hlast : target.children.getLast? = some source)
    (hr : isRefused (lines document).length source (some target) = false)
    (hneat : ∀ l ∈ extentLines (lines document) source.line source.lastLine, Neat l)
    (hbase : indentAt (lines document) target.line + width =
      leadingBlanks ((extentLines (lines document) source.line source.lastLine).headD [])) :
    ((move document source (some target) width).text = document ↔
        source.lastLine < (lines document).length) ∧
      (source.lastLine = (lines document).length →
        lines (move document source (some target) width).text =
          (lines document).take (source.line - 1).toNat ++
            [] :: extentLines (lines document) source.line source.lastLine) := by
  obtain ⟨c, hc⟩ := exists_cut_around hr
  rw [hc.extentLines_eq] at hneat hbase ⊢
  have hmove := lines_move_last_child hc hlast hr hneat hbase
  have hlines : lines document = c.before ++ c.block ++ c.after := hc.lines_eq.symm
  by_cases h : c.after = []
  · rw [if_pos (by simp [h]), h, List.append_nil] at hmove
    have hlen := hc.lastLine_eq_iff.mpr h
    refine ⟨⟨?_, by omega⟩, fun _ => ?_⟩
    · -- the text has one line more than it had
      intro hsame
      rw [hsame, hlines, h, List.append_nil] at hmove
      have hcount := congrArg List.length hmove
      simp only [List.length_append, List.length_singleton] at hcount
      omega
    · rw [hmove, ← hc.lines_eq, ← hc.first_eq, c.toNat_first, c.take_before, List.append_assoc,
        List.singleton_append]
  · rw [if_neg (by simp [h]), List.append_nil, ← hlines, lines_inj] at hmove
    have hle := (Cut.bounds_of_extentInDocument (extent_of_not_refused hr)).2.2
    have hne : source.lastLine ≠ (lines document).length := fun he => h (hc.lastLine_eq_iff.mp he)
    exact ⟨⟨fun _ => by omega, fun _ => hmove⟩, fun he => absurd he hne⟩

/-- A widget whose only child has a line of its own, and a final line feed. -/
def family : String := "Root:\n    A:\n        x: 1\n"

def familyChild : Node String Int := widgetOn 2 "A" [widgetOn 3 "x" []]

def familyRoot : Node String Int := widgetOn 1 "Root" [familyChild]

theorem move_last_child_family :
    (move family familyChild (some familyRoot) 4).text = family := by
  have hext : extentLines (lines family) familyChild.line familyChild.lastLine =
      [blanks (4 : Nat) ++ "A:".toList, blanks (8 : Nat) ++ "x: 1".toList] := by decide
  have hneat : ∀ l ∈ extentLines (lines family) familyChild.line familyChild.lastLine,
      Neat l := by
    intro l hl
    rw [hext] at hl
    rcases List.mem_pair.mp hl with rfl | rfl
    · exact Or.inr ⟨4, _, rfl, by decide, by decide⟩
    · exact Or.inr ⟨8, _, rfl, by decide, by decide⟩
  have hbase : indentAt (lines family) familyRoot.line + (4 : Int) = leadingBlanks
      ((extentLines (lines family) familyChild.line familyChild.lastLine).headD []) := by decide
  exact (move_last_child_eq_self_iff rfl (by decide) hneat hbase).1.mpr (by decide)

/-- A widget and its child, without a final line feed. -/
def bareFamily : String := "Root:\n    A:"

def bareChild : Node String Int := widgetOn 2 "A" []

def bareRoot : Node String Int := widgetOn 1 "Root" [bareChild]

theorem move_last_child_bareFamily :
    bareRoot.children.getLast? = some bareChild ∧
      isRefused (lines bareFamily).length bareChild (some bareRoot) = false ∧
      bareRoot.line < bareChild.line ∧
      (∀ l ∈ extentLines (lines bareFamily) bareChild.line bareChild.lastLine, Neat l) ∧
      indentAt (lines bareFamily) bareRoot.line + (4 : Int) = leadingBlanks
        ((extentLines (lines bareFamily) bareChild.line bareChild.lastLine).headD []) ∧
      (move bareFamily bareChild (some bareRoot) 4).text = "Root:\n\n    A:" ∧
      "Root:\n\n    A:" ≠ bareFamily := by
  have hext : extentLines (lines bareFamily) bareChild.line bareChild.lastLine =
      [blanks (4 : Nat) ++ "A:".toList] := by decide
  refine ⟨rfl, by decide, by decide, ?_, by decide, by decide, by decide⟩
  intro l hl
  rw [hext, List.mem_singleton] at hl
  exact Or.inr ⟨4, _, hl, by decide, by decide⟩

end KvMarkup.Edit

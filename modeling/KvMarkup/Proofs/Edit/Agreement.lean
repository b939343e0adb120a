import KvMarkup.Proofs.Edit.Host
import KvMarkup.Proofs.Edit.Insertion

/-!
# Dropping a snippet and inserting it

A snippet can be dropped under a target or inserted in front of a line at a column.  Both put the
block of the snippet in front of the place of a new child, but a drop takes the position as it is
and the target's indent and one level more as the column, while an insertion keeps the position
within the text and rounds the column down to a whole level.

The position makes no difference from the first line on (`splice_clamped`).  The column does unless
it is a whole number of levels already, for a block shows the column that it was put at
(`anchor_inj`).  So the two agree exactly when the target is indented by whole levels or the snippet
has no content (`drop_eq_insert_iff`).
-/

namespace KvMarkup.Edit

open KvMarkup.Text KvMarkup.Outline

/-! ## The position -/

theorem place_clamped {count : Nat} {position : Int} (h : 0 ≤ position) :
    place count (min (max 0 position) count) = place count position := by
  unfold place
  rw [if_neg (by omega), if_neg (by omega)]
  omega

/-- From the first line on a position can be kept within the lines. -/
theorem splice_clamped (ls block : List Line) {position : Int} (h : 0 ≤ position) :
    splice ls (min (max 0 position) ls.length) block = splice ls position block := by
  rw [splice, splice, place_clamped h]

theorem splice_inj {ls xs ys : List Line} {position : Int} :
    splice ls position xs = splice ls position ys ↔ xs = ys := by
  simp only [splice, List.append_cancel_right_eq, List.append_cancel_left_eq]

/-! ## The column -/

/-- Rounding keeps the columns that are a whole number of levels. -/
theorem roundIndent_eq_self_iff {width : Int} (hw : 1 ≤ width) {column : Int} (hc : 0 ≤ column) :
    roundIndent column width = column ↔ width ∣ column := by
  have hgreatest := isGreatest_roundIndent hw column
  constructor
  · intro h
    rw [← h]
    exact hgreatest.1.1
  · intro h
    have hle : column ≤ roundIndent column width := hgreatest.2 ⟨h, by omega⟩
    have hge := hgreatest.1.2
    omega

/-- A block shows the column that it was put at, if it has a line. -/
theorem anchor_inj {ls : List Line} {a b : Int} (ha : 0 ≤ a) (hb : 0 ≤ b) :
    anchor ls a = anchor ls b ↔ a = b ∨ content ls = [] := by
  constructor
  · intro h
    cases hfirst : anchor ls a with
    | nil => exact .inr (by simpa [anchor_eq_map] using hfirst)
    | cons l rest =>
      have hla := leadingSpace_head_anchor (show l ∈ (anchor ls a).head? by simp [hfirst])
      have hlb := leadingSpace_head_anchor (show l ∈ (anchor ls b).head? by simp [← h, hfirst])
      exact .inl (by omega)
  · rintro (rfl | h)
    · rfl
    · rw [anchor_eq_map, anchor_eq_map, h, List.map_nil, List.map_nil]

/-! ## The text -/

/-- **Dropping and inserting agree on whole levels.**  The target stands on a line of the text and
its new child does not go in before the first line.  Then a drop gives the text that an insertion in
front of the child's place does, one level to the right of the target, exactly when the target is
indented by whole levels or the snippet has no content.  That holds for a place past the end, too. -/
theorem drop_eq_insert_iff {document : String} {target : Node String Int} {line : Line}
    {width : Int} (hw : 1 ≤ width) (hpos : 1 ≤ target.line)
    (hline : (lines document)[(target.line - 1).toNat]? = some line)
    (hplace : 0 ≤ target.insertionLine) (snippet : String) :
    ∃ inserted,
      insert? document snippet target.insertionLine (leadingBlanks line + width) width =
        .ok inserted ∧
      ((drop document snippet (some target) width).text = inserted.text ↔
        width ∣ leadingBlanks line ∨ content ((dropEndMark snippet.toList).splitOn '\n') = []) := by
  refine ⟨_, insert?_eq_ok (by omega) _ _ _ _, ?_⟩
  have hcount := (List.getElem?_eq_some_iff.mp hline).1
  have hdoc : inDocument target.line (lines document).length = true := by
    simp only [inDocument, Bool.and_eq_true, decide_eq_true_eq]
    omega
  have hindent : indentAt (lines document) target.line = leadingBlanks line := by
    rw [indentAt, hline, Option.getD_some]
  have hround : roundIndent (leadingBlanks line + width) width = leadingBlanks line + width ↔
      width ∣ leadingBlanks line := by
    rw [roundIndent_eq_self_iff hw (by omega), Int.dvd_add_left (Int.dvd_refl width)]
  have hnonneg : 0 ≤ roundIndent (leadingBlanks line + width) width := Int.le_max_left _ _
  -- both put a block in at one place, so it is their blocks that have to agree
  rw [← lines_inj, lines_drop_some hdoc, lines_insert, splice_clamped _ _ hplace, hindent,
    splice_inj]
  rw [anchoredSnippet, anchoredSnippet, anchor_inj (by omega) hnonneg, eq_comm, hround]

/-- A widget in an outline of an older text: its last child ends below the text. -/
def staleWidget : Node String Int := widgetOn 2 "A" [widgetOn 9 "B" []]

theorem drop_eq_insert_stale :
    (drop "Root:\n    A:" "B:\n  c: 1" (some staleWidget) 4).text =
      (insert "Root:\n    A:" "B:\n  c: 1" 9 8 4).text := by
  have hw : (1 : Int) ≤ 4 := by decide
  have hline : (lines "Root:\n    A:")[(staleWidget.line - 1).toNat]? = some "    A:".toList := by
    decide
  obtain ⟨inserted, hok, hiff⟩ := drop_eq_insert_iff hw (by decide) hline (by decide) "B:\n  c: 1"
  obtain rfl := Except.ok.inj ((insert?_eq_ok (by decide) _ _ _ _).symm.trans hok)
  exact hiff.mpr (.inl (by decide))

end KvMarkup.Edit

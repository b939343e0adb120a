import KvMarkup.Proofs.Edit.Host
import KvMarkup.Proofs.Edit.Move

/-!
# What is put under a widget belongs to its block

The block of a host reads through everything up to the place of a new child, so what a drop or a
move puts there comes next, all of it, and what followed in the block follows still:

    lines code  = header :: (content upper ++ below lower)
    lines code' = header :: (content upper ++ content put ++ below lower)     (blockReads_of_split)

A move also takes lines away.  The header and the lines between it and the place of the child are
found again among the lines that stay (`exists_row_outside`), so the same reading applies.
-/

namespace KvMarkup.Edit

open KvMarkup.Text KvMarkup.Outline

/-- The block on a line, counted from zero, has the given lines. -/
def BlockReads (text : String) (row : Int) (code : List Line) : Prop :=
  ∃ b, blockAt? text row = some b ∧ lines b.code = code ∧ b.lineCount = code.length

/-- The block of a header reads through lines that are indented further. -/
theorem blockReads_of_split {text : String} {above upper lower : List Line} {header name : Line}
    (h : lines text = above ++ header :: (upper ++ lower)) (hn : headerName? header = some name)
    (hd : Deeper (leadingSpace header) upper) :
    BlockReads text above.length
      (header :: (content upper ++ below (leadingSpace header) lower)) := by
  refine ⟨_, blockAt?_eq h hn, ?_, ?_⟩
  · rw [lines_code_blockOf h, below_append_of_deeper hd]
  · rw [blockOf, below_append_of_deeper hd, List.length_cons]

/-! ## A target among the lines that stay -/

/-- The line, from zero, that a target outside the source stands on when the source has moved away
under it. -/
def rowAfterMove (source target : Node String Int) : Int :=
  if target.line < source.line then target.line - 1
  else target.line - 1 - (source.lastLine - source.line + 1)

theorem row_of_lt {ls : List Line} {start stop row : Nat} (h : row < start)
    (hs : start ≤ stop) (hr : row < ls.length) :
    (ls.take start ++ ls.drop stop)[row]? = ls[row]? ∧
      (ls.take start ++ ls.drop stop).drop (row + 1) ⊆ ls.drop (row + 1) := by
  have hlen : row + 1 ≤ (ls.take start).length := by
    rw [List.length_take]
    omega
  constructor
  · rw [List.getElem?_append_left hlen, List.getElem?_take_of_lt h]
  · rw [List.drop_append_of_le_length hlen]
    intro l hl
    rcases List.mem_append.mp hl with hl | hl
    · rw [List.drop_take] at hl
      exact List.mem_of_mem_take hl
    · rw [show stop = row + 1 + (stop - (row + 1)) by omega, ← List.drop_drop] at hl
      exact List.mem_of_mem_drop hl

theorem row_of_ge {ls : List Line} {start stop row : Nat} (h : stop ≤ row)
    (hs : start ≤ stop) (hr : row < ls.length) :
    (ls.take start ++ ls.drop stop)[row - (stop - start)]? = ls[row]? ∧
      (ls.take start ++ ls.drop stop).drop (row - (stop - start) + 1) ⊆ ls.drop (row + 1) := by
  have hlen : (ls.take start).length = start := by
    rw [List.length_take]
    omega
  constructor
  · rw [List.getElem?_append_right (by omega), hlen, List.getElem?_drop]
    congr 1
    omega
  · rw [List.drop_append, List.drop_eq_nil_of_le (by omega), List.nil_append, hlen, List.drop_drop,
      show stop + (row - (stop - start) + 1 - start) = row + 1 by omega]
    exact List.Subset.refl _

/-- The header of a target outside the source, and the lines between it and the place of a new
child, are found again among the lines that stay. -/
theorem exists_row_outside {ls : List Line} {source target : Node String Int} {header : Line}
    (hh : Hosts ls target header) (hle : target.line ≤ target.insertionLine)
    (hfirst : 1 ≤ source.line) (hlast : source.line ≤ source.lastLine)
    (hout : ¬ (source.line ≤ target.line ∧ target.line ≤ source.lastLine)) :
    ∃ row : Nat, (row : Int) = rowAfterMove source target ∧
      (outside (ls.take target.insertionLine.toNat) source.line source.lastLine)[row]? =
        some header ∧
      (outside (ls.take target.insertionLine.toNat) source.line source.lastLine).drop (row + 1) ⊆
        (ls.take target.insertionLine.toNat).drop target.line.toNat := by
  have hpos := hh.line_pos
  have hrow := hh.row_lt
  have hlt : (target.line - 1).toNat < (ls.take target.insertionLine.toNat).length := by
    rw [List.length_take]
    omega
  have hat : (ls.take target.insertionLine.toNat)[(target.line - 1).toNat]? = some header := by
    rw [List.getElem?_take_of_lt (by omega), hh.header_at]
  have hline : (target.line - 1).toNat + 1 = target.line.toNat := by omega
  by_cases h : target.line < source.line
  · obtain ⟨hget, hsub⟩ := row_of_lt (show (target.line - 1).toNat < (source.line - 1).toNat by omega)
      (show (source.line - 1).toNat ≤ source.lastLine.toNat by omega) hlt
    rw [hat] at hget
    rw [hline] at hsub
    refine ⟨(target.line - 1).toNat, ?_, hget, ?_⟩
    · rw [rowAfterMove, if_pos h]
      omega
    · rw [hline]
      exact hsub
  · obtain ⟨hget, hsub⟩ := row_of_ge (show source.lastLine.toNat ≤ (target.line - 1).toNat by omega)
      (show (source.line - 1).toNat ≤ source.lastLine.toNat by omega) hlt
    rw [hat] at hget
    rw [hline] at hsub
    refine ⟨_, ?_, hget, hsub⟩
    rw [rowAfterMove, if_neg h]
    omega

/-! ## Drops and moves -/

section
variable {document : String} {target : Node String Int} {header : Line} {width : Int}
  (hh : Hosts (lines document) target header) (hle : target.line ≤ target.insertionLine)
  (hw : 1 ≤ width)
include hh hle hw

/-- A dropped snippet comes into the block of its target right after what is above its place. -/
theorem blockReads_drop (snippet : String) :
    ∃ lower,
      BlockReads document (target.line - 1) (header ::
        (content (((lines document).take target.insertionLine.toNat).drop target.line.toNat) ++
          lower)) ∧
      BlockReads (drop document snippet (some target) width).text (target.line - 1) (header ::
        (content (((lines document).take target.insertionLine.toNat).drop target.line.toNat) ++
          anchoredSnippet snippet (leadingBlanks header + width) ++ lower)) := by
  obtain ⟨above, inner, under, hls, hline, hinner, -, hplace⟩ := hh.exists_split hle
  obtain ⟨name, hn⟩ := hh.exists_name
  have hdeep : Deeper (leadingSpace header) inner := hinner ▸ hh.deeper
  have hput := deeper_dropped hw hh.leadingSpace_eq snippet
  have hcontent : content (anchoredSnippet snippet (leadingBlanks header + width)) =
      anchoredSnippet snippet (leadingBlanks header + width) :=
    content_eq_self fun l hl => not_blank_of_mem_anchor hl
  have hdrop := hh.lines_drop hls hplace snippet width
  rw [← List.append_assoc] at hdrop
  have hold := blockReads_of_split hls hn hdeep
  have hnew := blockReads_of_split hdrop hn (deeper_append.mpr ⟨hdeep, hput⟩)
  have hrow : target.line - 1 = above.length := by omega
  rw [content_append, hcontent] at hnew
  rw [hrow, ← hinner]
  exact ⟨_, hold, hnew⟩

/-- A moved block comes into the block of its target right after what stays above its place. -/
theorem blockReads_move (hin : target.insertionLine ≤ (lines document).length)
    {source : Node String Int}
    (hr : isRefused (lines document).length source (some target) = false)
    (hout : ¬ (source.line ≤ target.line ∧ target.line ≤ source.lastLine))
    (hplace : target.insertionLine < source.line ∨ source.lastLine ≤ target.insertionLine)
    (hmargin : ∀ l ∈ content (extentLines (lines document) source.line source.lastLine),
      leadingBlanks ((extentLines (lines document) source.line source.lastLine).headD []) ≤
        leadingBlanks l) :
    ∃ lower,
      BlockReads (move document source (some target) width).text (rowAfterMove source target)
        (header ::
          (content ((outside ((lines document).take target.insertionLine.toNat) source.line
              source.lastLine).drop (rowAfterMove source target + 1).toNat) ++
            content (reindent (extentLines (lines document) source.line source.lastLine)
              (leadingBlanks header + width)) ++ lower)) := by
  obtain ⟨c, hc⟩ := exists_cut_around hr
  obtain ⟨name, hn⟩ := hh.exists_name
  obtain ⟨h1, h2, -⟩ := Cut.bounds_of_extentInDocument (extent_of_not_refused hr)
  obtain ⟨row, hrow, hget, hsub⟩ := exists_row_outside hh hle h1 h2 hout
  have hnat : ((target.insertionLine.toNat : Nat) : Int) = target.insertionLine := by
    have := hh.line_pos
    omega
  rw [hc.extentLines_eq] at hmargin ⊢
  -- the lines after the move: what stays above the place, the block, what is under it
  obtain ⟨gap, lower, hgap, hsplice⟩ := exists_splice_landing c target.insertionLine.toNat
    (by rw [hc.lines_eq]; omega) (by rw [hc.first_eq, hc.last_eq, hnat]; exact hplace)
    (reindent c.block (leadingBlanks header + width))
  have hmove := lines_move_some hc hr width
  rw [hh.indentAt_eq, ← hnat, hsplice, hc.lines_eq, hc.first_eq, hc.last_eq] at hmove
  generalize outside ((lines document).take target.insertionLine.toNat) source.line
    source.lastLine = kept at hget hsub hmove ⊢
  obtain ⟨hsplit, hlen⟩ := eq_take_cons_drop hget
  have hlines : lines (move document source (some target) width).text = kept.take row ++ header ::
      (kept.drop (row + 1) ++ gap ++ reindent c.block (leadingBlanks header + width) ++ lower) := by
    rw [hmove]
    conv => lhs; rw [hsplit]
    simp
  have hput : Deeper (leadingSpace header) (reindent c.block (leadingBlanks header + width)) := by
    intro l hl
    have := le_leadingSpace_reindent hmargin hl
    have := hh.leadingSpace_eq
    omega
  have hblank : Deeper (leadingSpace header) gap := by
    intro l hl
    rw [hgap] at hl
    cases hl
  have hdeep := deeper_append.mpr ⟨deeper_append.mpr ⟨hh.deeper.mono hsub, hblank⟩, hput⟩
  have hreads := blockReads_of_split hlines hn hdeep
  rw [hlen, content_append, content_append, hgap, List.append_nil] at hreads
  rw [← hrow]
  exact ⟨_, hreads⟩

end

/-- **What is put under a widget becomes part of it.**  Under a host whose place for children lies
in the text, the block of the header after a drop is the one before it with the anchored lines of
the snippet put in right after those from above the place.  After a move whose source neither holds
the target nor surrounds its place, and none of whose lines is indented less than its first one, the
block of the header has the moved lines with content together and in order, right after those that
stay above the place, and their texts are those of the source. -/
theorem children_join_block {document : String} {target : Node String Int} {header : Line}
    {width : Int} (hh : Hosts (lines document) target header)
    (hle : target.line ≤ target.insertionLine)
    (hin : target.insertionLine ≤ (lines document).length) (hw : 1 ≤ width) :
    (∀ snippet, ∃ b b' lower,
      blockAt? document (target.line - 1) = some b ∧
      blockAt? (drop document snippet (some target) width).text (target.line - 1) = some b' ∧
      lines b.code = header ::
        (content (((lines document).take target.insertionLine.toNat).drop target.line.toNat) ++
          lower) ∧
      lines b'.code = header ::
        (content (((lines document).take target.insertionLine.toNat).drop target.line.toNat) ++
          anchoredSnippet snippet (leadingBlanks header + width) ++ lower) ∧
      b'.lineCount =
        b.lineCount + (anchoredSnippet snippet (leadingBlanks header + width)).length) ∧
    ∀ source : Node String Int,
      isRefused (lines document).length source (some target) = false →
      ¬ (source.line ≤ target.line ∧ target.line ≤ source.lastLine) →
      (target.insertionLine < source.line ∨ source.lastLine ≤ target.insertionLine) →
      (∀ l ∈ content (extentLines (lines document) source.line source.lastLine),
        leadingBlanks ((extentLines (lines document) source.line source.lastLine).headD []) ≤
          leadingBlanks l) →
      ∃ b moved lower,
        blockAt? (move document source (some target) width).text (rowAfterMove source target) =
          some b ∧
        lines b.code = header ::
          (content ((outside ((lines document).take target.insertionLine.toNat) source.line
              source.lastLine).drop (rowAfterMove source target + 1).toNat) ++
            content moved ++ lower) ∧
        moved = reindent (extentLines (lines document) source.line source.lastLine)
          (leadingBlanks header + width) ∧
        texts moved = texts (extentLines (lines document) source.line source.lastLine) := by
  refine ⟨fun snippet => ?_, fun source hr hout hplace hmargin => ?_⟩
  · obtain ⟨lower, ⟨b, hb, hcode, hcount⟩, b', hb', hcode', hcount'⟩ :=
      blockReads_drop hh hle hw snippet
    refine ⟨b, b', lower, hb, hb', hcode, hcode', ?_⟩
    rw [hcount, hcount']
    simp only [List.length_cons, List.length_append]
    omega
  · obtain ⟨lower, b, hb, hcode, -⟩ := blockReads_move hh hle hw hin hr hout hplace hmargin
    exact ⟨b, _, lower, hb, hcode, rfl, texts_congr (map_trim_reindent _ _)⟩

/-- A widget with two children and a blank line, a root with a child of its own, and one more. -/
def threeWidgets : String := "A:\n   X:\n\n     Y:\nRoot:\n  B:\nC:"

def threeSource : Node String Int := widgetOn 1 "A" [widgetOn 2 "X" [], widgetOn 4 "Y" []]

def threeTarget : Node String Int := widgetOn 5 "Root" [widgetOn 6 "B" []]

/-- The root takes in a snippet, and the first widget. -/
theorem children_join_root :
    (∃ b b' lower,
      blockAt? threeWidgets 4 = some b ∧
      blockAt? (drop threeWidgets "Label:\n  text: 1" (some threeTarget) 4).text 4 = some b' ∧
      lines b.code = "Root:".toList :: (["  B:".toList] ++ lower) ∧
      lines b'.code = "Root:".toList ::
        (["  B:".toList] ++ ["    Label:".toList, "      text: 1".toList] ++ lower) ∧
      b'.lineCount = b.lineCount + 2) ∧
    ∃ b moved lower,
      blockAt? (move threeWidgets threeSource (some threeTarget) 4).text 0 = some b ∧
      lines b.code = "Root:".toList :: (["  B:".toList] ++ content moved ++ lower) ∧
      moved = ["    A:".toList, "       X:".toList, [], "         Y:".toList] ∧
      texts moved = ["A:".toList, "X:".toList, "Y:".toList] := by
  have hosts : Hosts (lines threeWidgets) threeTarget "Root:".toList :=
    ⟨by decide, by decide, by decide, by decide, by decide⟩
  have hwidth : (1 : Int) ≤ 4 := by decide
  have hjoin := children_join_block hosts (by decide) (by decide) hwidth
  exact ⟨hjoin.1 "Label:\n  text: 1",
    hjoin.2 threeSource (by decide) (by decide) (by decide) (by decide)⟩

end KvMarkup.Edit

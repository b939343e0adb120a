import KvMarkup.Proofs.Edit.Block
import KvMarkup.Proofs.Edit.Indent

/-!
# Widgets that can take a child

A target *hosts* when it stands on a widget header that is indented with blanks only and every line
with content from there to the place of a new child is indented further (`Hosts`).  Nothing is said
of the width by which the text is indented.

The text then splits around the header and the place of the child, and a drop shows in that split:

    lines document                       = above ++ header :: (inner ++ under)
    lines (drop document snippet …).text = above ++ header :: (inner ++ dropped ++ under)

where `dropped` are the lines of the snippet, indented further than the header (`deeper_dropped`).
-/

namespace KvMarkup.Edit

open KvMarkup.Text KvMarkup.Outline

/-- The target stands on a widget header, indented with blanks only, and the lines with content
between it and the place of a new child are indented further. -/
structure Hosts (ls : List Line) (target : Node String Int) (header : Line) : Prop where
  line_pos : 1 ≤ target.line
  header_at : ls[(target.line - 1).toNat]? = some header
  isHeader : isHeader header = true
  blanks_only : header.takeWhile isSpace = header.takeWhile (· == ' ')
  deeper : Deeper (leadingSpace header)
    ((ls.take target.insertionLine.toNat).drop target.line.toNat)

/-- A widget node that covers its name on its own line. -/
def widgetOn (line : Int) (name : String) (children : List (Node String Int)) : Node String Int :=
  ⟨name, .widget, .onLine line 1 name.length, .onLine line 1 name.length, none, children⟩

/-- What is dropped under a header is indented further than the header. -/
theorem deeper_dropped {header : Line} {width : Int} (hw : 1 ≤ width)
    (hb : leadingSpace header = leadingBlanks header) (snippet : String) :
    Deeper (leadingSpace header) (anchoredSnippet snippet (leadingBlanks header + width)) := by
  intro l hl
  have := le_leadingSpace_anchor (mem_content.mp hl).1
  omega

theorem lines_drop_some {document : String} {target : Node String Int}
    (h : inDocument target.line (lines document).length = true) (snippet : String) (width : Int) :
    lines (drop document snippet (some target) width).text =
      splice (lines document) target.insertionLine
        (anchoredSnippet snippet (indentAt (lines document) target.line + width)) := by
  have hd : inDocument (Anchor.ofNode target).first (lines document).length = true := h
  unfold drop dropUnder
  simp only
  rw [if_pos hd]
  show lines (if (anchoredSnippet snippet (indentAt (lines document) target.line + width)).isEmpty
    then _ else _ : Edited).text = _
  split
  · next he => rw [List.isEmpty_iff.mp he, splice_nil]
  · next he =>
    exact lines_ofLines_splice _ _ (mt List.isEmpty_iff.mpr he) (noBreaks_anchoredSnippet _ _)

namespace Hosts

variable {ls : List Line} {target : Node String Int} {header : Line}

theorem leadingSpace_eq (h : Hosts ls target header) : leadingSpace header = leadingBlanks header :=
  congrArg List.length h.blanks_only

theorem indentAt_eq (h : Hosts ls target header) :
    indentAt ls target.line = leadingBlanks header := by
  rw [indentAt, h.header_at]
  rfl

theorem row_lt (h : Hosts ls target header) : (target.line - 1).toNat < ls.length :=
  (List.getElem?_eq_some_iff.mp h.header_at).1

theorem inDocument (h : Hosts ls target header) : inDocument target.line ls.length = true := by
  have h1 := h.line_pos
  have h2 := h.row_lt
  simp only [Edit.inDocument, Bool.and_eq_true, decide_eq_true_eq]
  omega

theorem exists_name (h : Hosts ls target header) : ∃ name, headerName? header = some name :=
  Option.isSome_iff_exists.mp h.isHeader

/-- The lines split around the header and the place of a new child. -/
theorem exists_split (h : Hosts ls target header) (hle : target.line ≤ target.insertionLine) :
    ∃ above inner under, ls = above ++ header :: (inner ++ under) ∧
      target.line = above.length + 1 ∧
      inner = (ls.take target.insertionLine.toNat).drop target.line.toNat ∧
      under = ls.drop target.insertionLine.toNat ∧
      place ls.length target.insertionLine = above.length + 1 + inner.length := by
  have hpos := h.line_pos
  have hrow := h.row_lt
  have hline : (target.line - 1).toNat + 1 = target.line.toNat := by omega
  obtain ⟨hsplit, hlen⟩ := eq_take_cons_drop h.header_at
  have hunder : ls.drop target.line.toNat =
      (ls.take target.insertionLine.toNat).drop target.line.toNat ++
        ls.drop target.insertionLine.toNat := by
    conv => lhs; rw [← List.take_append_drop target.insertionLine.toNat ls]
    rw [List.drop_append_of_le_length]
    rw [List.length_take]
    omega
  refine ⟨ls.take (target.line - 1).toNat,
    (ls.take target.insertionLine.toNat).drop target.line.toNat,
    ls.drop target.insertionLine.toNat, ?_, by omega, rfl, rfl, ?_⟩
  · rw [← hunder, ← hline]
    exact hsplit
  · rw [hlen, List.length_drop, List.length_take, place, if_neg (by omega)]
    omega

/-- A drop puts the lines of the snippet in between the inner lines and what is under them. -/
theorem lines_drop {document : String} (h : Hosts (lines document) target header)
    {above inner under : List Line} (hls : lines document = above ++ header :: (inner ++ under))
    (hplace : place (lines document).length target.insertionLine = above.length + 1 + inner.length)
    (snippet : String) (width : Int) :
    lines (drop document snippet (some target) width).text = above ++ header ::
      (inner ++ (anchoredSnippet snippet (leadingBlanks header + width) ++ under)) := by
  have hassoc : lines document = (above ++ header :: inner) ++ under := by
    rw [hls]
    simp
  have hlen : above.length + 1 + inner.length = (above ++ header :: inner).length := by
    rw [List.length_append, List.length_cons]
    omega
  rw [lines_drop_some h.inDocument, h.indentAt_eq, splice, hplace, hlen, hassoc, List.take_left,
    List.drop_left]
  simp

end Hosts

end KvMarkup.Edit

import KvMarkup.Proofs.Edit.Host
import KvMarkup.Proofs.Edit.Move

/-!
# Moving a block back

A block that moves under a target and then under its old parent again goes through two cuts of the
text.  It lands above or below where it was, and the cut around it there has the lines that it
passed on its other side:

    up      xs ++ ys ++ block ++ after   →  xs ++ run ++ ys ++ after   →  xs ++ ys ++ block ++ after
    down    before ++ block ++ xs ++ ys  →  before ++ xs ++ run ++ ys  →  before ++ block ++ xs ++ ys

The place that the block is moved back to is that of its old lines, corrected in the other direction
(`RoundTrip`).  On the way the block is shifted from its column to another one and back, which
changes nothing if its lines are neat and none of them stands to the left of the first one
(`reindent_back`).  The old parent keeps its indent, on a line that may have moved down.
-/

namespace KvMarkup.Edit

open KvMarkup.Text KvMarkup.Outline

/-! ## The indent of a line among others -/

theorem indentAt_append_left {xs : List Line} {line : Int} (h1 : 1 ≤ line) (h2 : line ≤ xs.length)
    (ys : List Line) : indentAt (xs ++ ys) line = indentAt xs line := by
  rw [indentAt, indentAt, List.getElem?_append_left (by omega)]

theorem indentAt_append_right {xs : List Line} {line : Int} (h : xs.length < line)
    (ys : List Line) : indentAt (xs ++ ys) line = indentAt ys (line - xs.length) := by
  rw [indentAt, indentAt, List.getElem?_append_right (by omega)]
  congr 3
  omega

/-- A line keeps its indent when lines are put in above or below it. -/
theorem indentAt_put_in (xs ys run us vs : List Line) {line : Int} (h1 : 1 ≤ line)
    (h2 : line ≤ xs.length + ys.length) :
    indentAt (xs ++ run ++ (ys ++ us)) (if xs.length < line then line + run.length else line) =
      indentAt (xs ++ ys ++ vs) line := by
  split
  · next hlt =>
    rw [indentAt_append_right (by rw [List.length_append]; omega),
      indentAt_append_left (by rw [List.length_append]; omega)
        (by rw [List.length_append]; omega),
      indentAt_append_left h1 (by rw [List.length_append]; omega), indentAt_append_right hlt,
      List.length_append]
    congr 1
    omega
  · rw [List.append_assoc, List.append_assoc, indentAt_append_left h1 (by omega),
      indentAt_append_left h1 (by omega)]

/-! ## There and back -/

/-- The block of a cut goes to the place `insertion` and is the block of another cut there, from
where it goes back.  Lines above the block keep their indent. -/
structure RoundTrip (c c' : Cut) (insertion : Int) : Prop where
  length_eq : c'.block.length = c.block.length
  first_eq : c'.first =
    if insertion < c.first then insertion + 1 else insertion - c.block.length + 1
  there : splice (c.before ++ c.rest) (landing c insertion) c'.block = c'.lines
  back : splice (c'.before ++ c'.rest)
    (landing c' (if insertion < c.first then c.last else c.first - 1)) c.block = c.lines
  indentAt_eq : ∀ line, 1 ≤ line → line < c.first →
    indentAt c'.lines (if insertion < line then line + c.block.length else line) =
      indentAt c.lines line

theorem Cut.rest_of_after_ne {c : Cut} (h : c.after ≠ []) : c.rest = c.after :=
  if_neg (by simp [h])

/-- A block that goes up past the lines `ys`. -/
theorem roundTrip_up {c : Cut} (hafter : c.after ≠ []) {xs ys run : List Line}
    (hb : c.before = xs ++ ys) (hne : run ≠ []) (hlen : run.length = c.block.length) :
    RoundTrip c ⟨xs, run, ys ++ c.after, hne⟩ xs.length := by
  have hbefore : c.before.length = xs.length + ys.length := by rw [hb, List.length_append]
  have hup : (xs.length : Int) < c.first := by
    unfold Cut.first
    omega
  refine ⟨hlen, ?_, ?_, ?_, fun line h1 h2 => ?_⟩
  · rw [if_pos hup]
    rfl
  · rw [splice_landing_before c hb, Cut.rest_of_after_ne hafter]
    rfl
  · have hlast : c.last = Cut.last ⟨xs, run, ys ++ c.after, hne⟩ + ys.length := by
      simp only [Cut.last]
      omega
    rw [if_pos hup, hlast, splice_landing_after _ rfl (by simp [hafter]), Cut.lines, hb]
  · unfold Cut.first at h2
    rw [← hlen, Cut.lines, Cut.lines, hb, List.append_assoc (xs ++ ys)]
    exact indentAt_put_in xs ys run c.after _ h1 (by omega)

/-- A block that goes down past the lines `xs`. -/
theorem roundTrip_down {c : Cut} {xs ys run : List Line} (ha : c.after = xs ++ ys) (hys : ys ≠ [])
    (hne : run ≠ []) (hlen : run.length = c.block.length) :
    RoundTrip c ⟨c.before ++ xs, run, ys, hne⟩ (c.last + xs.length) := by
  have hdown : ¬ c.last + xs.length < c.first := by
    have := List.length_pos_iff.mpr c.block_ne
    unfold Cut.first Cut.last
    omega
  refine ⟨hlen, ?_, ?_, ?_, fun line h1 h2 => ?_⟩
  · rw [if_neg hdown]
    unfold Cut.first Cut.last
    rw [List.length_append]
    omega
  · rw [splice_landing_after c ha (by simp [ha, hys])]
    rfl
  · have hfirst : c.first - 1 = c.before.length := by
      unfold Cut.first
      omega
    rw [if_neg hdown, hfirst, splice_landing_before _ rfl, Cut.rest_of_after_ne hys, Cut.lines, ha]
  · rw [if_neg (by omega)]
    unfold Cut.first at h2
    rw [Cut.lines, Cut.lines, List.append_assoc, List.append_assoc, List.append_assoc,
      indentAt_append_left h1 (by omega), indentAt_append_left h1 (by omega)]

/-- A block that other lines follow can go to any place outside itself before the last line and
come back. -/
theorem exists_roundTrip {c : Cut} (hafter : c.after ≠ []) {insertion : Int} (h0 : 0 ≤ insertion)
    (hlt : insertion < c.lines.length) (hclear : insertion < c.first ∨ c.last ≤ insertion)
    {run : List Line} (hlen : run.length = c.block.length) :
    ∃ c', RoundTrip c c' insertion ∧ c'.block = run := by
  have hne : run ≠ [] := by
    have := List.length_pos_iff.mpr c.block_ne
    exact List.length_pos_iff.mp (by omega)
  obtain ⟨k, rfl⟩ := Int.eq_ofNat_of_zero_le h0
  rcases hclear with hup | hdown
  · have hk : (c.before.take k).length = k := by
      unfold Cut.first at hup
      rw [List.length_take]
      omega
    have htrip := roundTrip_up hafter (List.take_append_drop k c.before).symm hne hlen
    rw [hk] at htrip
    exact ⟨_, htrip, rfl⟩
  · obtain ⟨j, hj⟩ := Int.le.dest hdown
    have hjlt : j < c.after.length := by
      rw [c.length_lines, List.length_append] at hlt
      unfold Cut.last at hj
      omega
    have hlen' : (c.after.take j).length = j := by
      rw [List.length_take]
      omega
    have hrest : c.after.drop j ≠ [] := by
      rw [← List.length_pos_iff, List.length_drop]
      omega
    have htrip := roundTrip_down (List.take_append_drop j c.after).symm hrest hne hlen
    rw [hlen', hj] at htrip
    exact ⟨_, htrip, rfl⟩

/-! ## Back to the old parent -/

/-- The source stands in the text below its parent, with other lines after it, and its lines hang
from the first one, one level to the right of the parent. -/
structure Seated (ls : List Line) (source parent : Node String Int) (width : Int) : Prop where
  parent_pos : 1 ≤ parent.line
  parent_above : parent.line < source.line
  line_le : source.line ≤ source.lastLine
  ends_before : source.lastLine < ls.length
  hanging : Hanging (extentLines ls source.line source.lastLine)
  one_level : (leadingBlanks ((extentLines ls source.line source.lastLine).headD []) : Int) =
    indentAt ls parent.line + width

/-- The nodes `source'` and `parent'` stand for a source and its parent after the source has moved
to the place `insertion`; the place of a new child of `parent'` is where the source was. -/
structure Relocated (source parent : Node String Int) (insertion : Int)
    (source' parent' : Node String Int) : Prop where
  extent_eq : source'.extent =
    if insertion < source.line then
      (insertion + 1, insertion + (source.lastLine - source.line + 1))
    else (insertion - (source.lastLine - source.line + 1) + 1, insertion)
  parent_line : parent'.line =
    if insertion < parent.line then parent.line + (source.lastLine - source.line + 1)
    else parent.line
  parent_insertion : parent'.insertionLine =
    if insertion < source.line then source.lastLine else source.line - 1

theorem Cut.last_eq_first_add (c : Cut) : c.last = c.first - 1 + c.block.length := by
  unfold Cut.last Cut.first
  omega

theorem Cut.Around.length_block {c : Cut} {ls : List Line} {source : Node String Int}
    (hc : c.Around ls source) : source.lastLine - source.line + 1 = c.block.length := by
  have := c.last_eq_first_add
  rw [hc.first_eq, hc.last_eq] at this
  omega

/-- A source that the text can be cut around is not refused under a target of the text that it does
not hold. -/
theorem Cut.Around.not_refused {c : Cut} {ls : List Line} {source target : Node String Int}
    (hc : c.Around ls source) (hcontains : source.contains target = false)
    (ht : inDocument target.line ls.length = true) :
    isRefused ls.length source (some target) = false := by
  have hpos := List.length_pos_iff.mpr c.block_ne
  have hlen : ls.length = c.before.length + c.block.length + c.after.length := by
    rw [← hc.lines_eq, c.length_lines, List.length_append]
  have h1 := hc.first_eq
  have h2 := hc.last_eq
  unfold Cut.first at h1
  unfold Cut.last at h2
  have hext : extentInDocument source.line source.lastLine ls.length = true := by
    simp only [extentInDocument, Bool.and_eq_true, decide_eq_true_eq]
    omega
  rw [isRefused_some, hcontains, ht, hext]
  rfl

section
variable {c c' : Cut} {source parent source' parent' : Node String Int} {insertion : Int}

theorem RoundTrip.length_lines (h : RoundTrip c c' insertion) (hafter : c.after ≠ []) :
    c'.lines.length = c.lines.length := by
  rw [← h.there, length_splice, Cut.rest_of_after_ne hafter, h.length_eq, c.length_lines]
  simp only [List.length_append]
  omega

variable {ls ls' : List Line} (hc : c.Around ls source) (h : RoundTrip c c' insertion)
  (hm : Relocated source parent insertion source' parent') (hls : c'.lines = ls')
include hc h hm hls

/-- The cut that a block arrives in is the one around its new lines. -/
theorem RoundTrip.around : c'.Around ls' source' := by
  have hext := hm.extent_eq
  rw [hc.length_block, Node.extent] at hext
  have hfirst := h.first_eq
  rw [hc.first_eq] at hfirst
  have hlast := c'.last_eq_first_add
  rw [h.length_eq] at hlast
  by_cases hup : insertion < source.line
  · rw [if_pos hup, Prod.mk.injEq] at hext
    rw [if_pos hup] at hfirst
    exact ⟨hls, by omega, by omega⟩
  · rw [if_neg hup, Prod.mk.injEq] at hext
    rw [if_neg hup] at hfirst
    exact ⟨hls, by omega, by omega⟩

/-- The old parent has the indent that it had. -/
theorem RoundTrip.indentAt_parent {width : Int} (hs : Seated ls source parent width) :
    indentAt ls' parent'.line = indentAt ls parent.line := by
  have habove : parent.line < c.first := by
    rw [hc.first_eq]
    exact hs.parent_above
  rw [hm.parent_line, hc.length_block, ← hls, ← hc.lines_eq]
  exact h.indentAt_eq parent.line hs.parent_pos habove

end

section
variable {document : String} {source parent : Node String Int} {width : Int}
  (hs : Seated (lines document) source parent width)
include hs

theorem Seated.exists_cut : ∃ c : Cut, c.Around (lines document) source ∧ c.after ≠ [] := by
  obtain ⟨h1, h2, h3, h4, -, -⟩ := hs
  have hext : extentInDocument source.line source.lastLine (lines document).length = true := by
    simp only [extentInDocument, Bool.and_eq_true, decide_eq_true_eq]
    omega
  obtain ⟨c, hlines, hfirst, hlast⟩ := Cut.exists_of_extent hext
  have hc : c.Around (lines document) source := ⟨hlines, hfirst, hlast⟩
  refine ⟨c, hc, fun h => ?_⟩
  have := hc.lastLine_eq_iff.mpr h
  omega

theorem Seated.reindent_back_block {c : Cut} (hc : c.Around (lines document) source) {column : Int}
    (hcol : 0 ≤ column) :
    reindent (reindent c.block column) (indentAt (lines document) parent.line + width) =
      c.block := by
  have hlevel := hs.one_level
  have hhang := hs.hanging
  rw [hc.extentLines_eq] at hlevel hhang
  rw [← hlevel]
  exact reindent_back hhang hcol

end

/-- **A move can be undone by moving back.**  Let a block with lines after it hang one level below a
parent above it.  After a move to any place outside the block and before the last line, moving the
block from where it is now back to the parent, at the place where its lines were, gives the document
again. -/
theorem move_back_eq_self {document : String} {source parent target source' parent' :
    Node String Int} {width : Int} (hw : 1 ≤ width)
    (hs : Seated (lines document) source parent width)
    (ht : inDocument target.line (lines document).length = true)
    (h0 : 0 ≤ target.insertionLine) (hlt : target.insertionLine < (lines document).length)
    (hclear : target.insertionLine < source.line ∨ source.lastLine ≤ target.insertionLine)
    (hc : source.contains target = false)
    (hm : Relocated source parent target.insertionLine source' parent')
    (hc' : source'.contains parent' = false) :
    (move (move document source (some target) width).text source' (some parent') width).text =
      document := by
  obtain ⟨c, hcut, hafter⟩ := hs.exists_cut
  have hlines := hcut.lines_eq
  -- there: the block is in a cut of its own again
  have hthere := lines_move_some hcut (hcut.not_refused hc ht) width
  obtain ⟨c', htrip, hblock⟩ := exists_roundTrip hafter h0 (by rw [hlines]; exact hlt)
    (by rw [hcut.first_eq, hcut.last_eq]; exact hclear)
    (length_reindent c.block (indentAt (lines document) target.line + width))
  rw [← hblock, htrip.there] at hthere
  have hcut' := htrip.around hcut hm hthere.symm
  have hindent := htrip.indentAt_parent hcut hm hthere.symm hs
  -- back: the old parent is a line of the text still
  have hparent : inDocument parent'.line
      (lines (move document source (some target) width).text).length = true := by
    obtain ⟨h1, h2, h3, h4, -, -⟩ := hs
    rw [hthere, htrip.length_lines hafter, hlines, hm.parent_line]
    simp only [inDocument, Bool.and_eq_true, decide_eq_true_eq]
    split <;> omega
  have hback := lines_move_some hcut' (hcut'.not_refused hc' hparent) width
  rw [hindent, hblock, hs.reindent_back_block hcut (by omega), hm.parent_insertion,
    ← hcut.first_eq, ← hcut.last_eq, htrip.back, hlines] at hback
  exact lines_inj.mp hback

/-! ## A block that moves below another widget -/

/-- A widget with a child of two lines, followed by another widget with a child. -/
def roaming : String := "Root:
    A:
        x: 1
B:
    C:
"

def roamingChild : Node String Int := widgetOn 2 "A" [widgetOn 3 "x" []]

def roamingRoot : Node String Int := widgetOn 1 "Root" [roamingChild]

def roamingTarget : Node String Int := widgetOn 5 "C" []

/-- The child and the root after the child has moved below `C`. -/
def roamedChild : Node String Int := widgetOn 4 "A" [widgetOn 5 "x" []]

def roamedRoot : Node String Int := widgetOn 1 "Root" []

theorem move_back_roaming :
    (move roaming roamingChild (some roamingTarget) 4).text =
        "Root:
B:
    C:
        A:
            x: 1
" ∧
      (move (move roaming roamingChild (some roamingTarget) 4).text roamedChild
        (some roamedRoot) 4).text = roaming := by
  have hext : extentLines (lines roaming) roamingChild.line roamingChild.lastLine =
      [blanks (4 : Nat) ++ "A:".toList, blanks (8 : Nat) ++ "x: 1".toList] := by decide
  have hneat : ∀ l ∈ extentLines (lines roaming) roamingChild.line roamingChild.lastLine,
      Neat l := by
    intro l hl
    rw [hext] at hl
    rcases List.mem_pair.mp hl with rfl | rfl
    · exact Or.inr ⟨4, _, rfl, by decide, by decide⟩
    · exact Or.inr ⟨8, _, rfl, by decide, by decide⟩
  have hs : Seated (lines roaming) roamingChild roamingRoot 4 :=
    ⟨by decide, by decide, by decide, by decide, ⟨hneat, by decide, by decide⟩, by decide⟩
  exact ⟨by decide, move_back_eq_self (by decide) hs (by decide) (by decide) (by decide)
    (by decide) (by decide) ⟨by decide, by decide, by decide⟩ (by decide)⟩

end KvMarkup.Edit

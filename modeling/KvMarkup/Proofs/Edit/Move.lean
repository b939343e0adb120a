import KvMarkup.Proofs.Edit.Indent
import KvMarkup.Proofs.Edit.Splice

/-!
# What a move does to the lines of a text

A move that is not refused cuts the text in three around the extent of its source (`Cut`), takes the
block in the middle out and puts it, reindented under a target, in at one place of what is left.
What is left is the lines before and after the block; a block that ends with the text leaves an
empty line behind (`Cut.rest`).

    isRefused → (move …).text = document                                      (move_of_refused)
    ¬ isRefused → lines (move …).text = append / splice (before ++ rest) …
                                                    (lines_move_none, lines_move_some)

So nothing is lost and nothing doubled (`move_conserves_lines`), for all lines that the nodes name.
-/

namespace KvMarkup.Edit

open KvMarkup.Text KvMarkup.Outline

/-- A move that is refused: its target lies in its source or outside the text, or its source does
not lie in the text. -/
def isRefused (count : Nat) (source : Node String Int) (target : Option (Node String Int)) : Bool :=
  target.any (fun t => source.contains t || !inDocument t.line count) ||
    !extentInDocument source.line source.lastLine count

/-- The lines of an extent, which counts from one. -/
def extentLines (ls : List Line) (first last : Int) : List Line :=
  (ls.take last.toNat).drop (first - 1).toNat

/-- The lines outside an extent, which counts from one. -/
def outside (ls : List Line) (first last : Int) : List Line :=
  ls.take (first - 1).toNat ++ ls.drop last.toNat

/-! ## Cutting a text around an extent -/

/-- Lines cut in three, with a block in the middle that is not empty. -/
structure Cut where
  before : List Line
  block : List Line
  after : List Line
  block_ne : block ≠ []

namespace Cut

/-- The lines that are cut. -/
def lines (c : Cut) : List Line := c.before ++ c.block ++ c.after

/-- The line that the block begins on, from one. -/
def first (c : Cut) : Int := c.before.length + 1

/-- The line that the block ends on, from one. -/
def last (c : Cut) : Int := c.before.length + c.block.length

/-- What follows the lines before the block once it is gone. -/
def rest (c : Cut) : List Line := if c.after.isEmpty then [[]] else c.after

theorem bounds_of_extentInDocument {first last : Int} {count : Nat}
    (h : extentInDocument first last count = true) : 1 ≤ first ∧ first ≤ last ∧ last ≤ count := by
  simp only [extentInDocument, Bool.and_eq_true, decide_eq_true_eq] at h
  omega

/-- Lines can be cut around an extent that lies among them. -/
theorem exists_of_extent {ls : List Line} {first last : Int}
    (h : extentInDocument first last ls.length = true) :
    ∃ c : Cut, c.lines = ls ∧ c.first = first ∧ c.last = last := by
  obtain ⟨h1, h2, h3⟩ := bounds_of_extentInDocument h
  have hbefore : (ls.take (first - 1).toNat).length = (first - 1).toNat := by
    rw [List.length_take]
    omega
  have hblock : (extentLines ls first last).length = last.toNat - (first - 1).toNat := by
    rw [extentLines, List.length_drop, List.length_take]
    omega
  have hne : extentLines ls first last ≠ [] := by
    rw [← List.length_pos_iff, hblock]
    omega
  refine ⟨⟨ls.take (first - 1).toNat, extentLines ls first last, ls.drop last.toNat, hne⟩,
    ?_, ?_, ?_⟩
  · have htake : ls.take (first - 1).toNat = (ls.take last.toNat).take (first - 1).toNat := by
      rw [List.take_take, Nat.min_eq_left (by omega)]
    show ls.take (first - 1).toNat ++ extentLines ls first last ++ ls.drop last.toNat = ls
    rw [extentLines, htake, List.take_append_drop, List.take_append_drop]
  · show ((ls.take (first - 1).toNat).length : Int) + 1 = first
    omega
  · show ((ls.take (first - 1).toNat).length : Int) + (extentLines ls first last).length = last
    omega

variable (c : Cut)

theorem toNat_first : (c.first - 1).toNat = c.before.length := by
  unfold first
  omega

theorem toNat_last : c.last.toNat = (c.before ++ c.block).length := by
  unfold last
  rw [List.length_append]
  omega

theorem length_lines : c.lines.length = (c.before ++ c.block).length + c.after.length := by
  rw [lines, List.length_append]

theorem last_eq_length_iff : c.last = c.lines.length ↔ c.after = [] := by
  rw [length_lines, last, List.length_append, ← List.length_eq_zero_iff]
  omega

theorem extentLines_eq : extentLines c.lines c.first c.last = c.block := by
  rw [extentLines, toNat_first, toNat_last, lines, List.take_left, List.drop_left]

theorem take_before : c.lines.take c.before.length = c.before := by
  rw [lines, List.append_assoc, List.take_left]

theorem outside_eq : outside c.lines c.first c.last = c.before ++ c.after := by
  rw [outside, toNat_first, toNat_last, take_before, lines, List.drop_left]

theorem last_lt_length_iff : c.last.toNat < c.lines.length ↔ ¬ c.after.isEmpty = true := by
  rw [toNat_last, length_lines, List.isEmpty_iff_length_eq_zero]
  omega

theorem remaining_eq :
    remaining c.lines (c.first - 1).toNat c.last.toNat = c.before ++ c.rest := by
  unfold remaining rest
  by_cases h : c.after.isEmpty = true
  · rw [if_neg (fun hlt => c.last_lt_length_iff.mp hlt h), if_pos h, toNat_first, take_before]
  · rw [if_pos (c.last_lt_length_iff.mpr h), if_neg h]
    exact c.outside_eq

theorem removedCount_eq : removedCount c.lines (c.first - 1).toNat c.last.toNat =
    if c.after.isEmpty then c.block.length - 1 else c.block.length := by
  have hsub : c.last.toNat - (c.first - 1).toNat = c.block.length := by
    rw [toNat_first, toNat_last, List.length_append]
    omega
  unfold removedCount
  rw [hsub]
  by_cases h : c.after.isEmpty = true
  · rw [if_neg (fun hlt => c.last_lt_length_iff.mp hlt h), if_pos h]
  · rw [if_pos (c.last_lt_length_iff.mpr h), if_neg h]

/-- What is left is the lines outside the extent and, where that ends with the text, an empty
line. -/
theorem before_rest_eq : c.before ++ c.rest =
    outside c.lines c.first c.last ++ if c.last = c.lines.length then [[]] else [] := by
  rw [outside_eq, rest]
  by_cases h : c.after = []
  · rw [if_pos (by simp [h]), if_pos (c.last_eq_length_iff.mpr h), h, List.append_nil]
  · rw [if_neg (by simp [h]), if_neg (mt c.last_eq_length_iff.mp h), List.append_nil]

theorem noBreaks_before_rest (h : NoBreaks c.lines) : NoBreaks (c.before ++ c.rest) := by
  rw [lines, noBreaks_append, noBreaks_append] at h
  rw [noBreaks_append]
  refine ⟨h.1.1, ?_⟩
  unfold rest
  split
  · decide
  · exact h.2

theorem noBreaks_block (h : NoBreaks c.lines) : NoBreaks c.block := by
  rw [lines, noBreaks_append, noBreaks_append] at h
  exact h.1.2

end Cut

/-! ## The two ways of a move -/

theorem isRefused_some (count : Nat) (source t : Node String Int) :
    isRefused count source (some t) = (source.contains t || !inDocument t.line count ||
      !extentInDocument source.line source.lastLine count) := rfl

theorem move_of_refused {document : String} {source : Node String Int}
    {target : Option (Node String Int)}
    (h : isRefused (lines document).length source target = true) (width : Int) :
    (move document source target width).text = document := by
  unfold move moveAnchors
  cases target with
  | none =>
    have hext : extentInDocument (Anchor.ofNode source).first (Anchor.ofNode source).last
        (lines document).length = false := by
      simp only [isRefused, Option.any_none, Bool.false_or, Bool.not_eq_true'] at h
      exact h
    simp only [Option.map_none]
    rw [if_neg (by simp [hext])]
  | some t =>
    simp only [Option.map_some, Option.any_some]
    by_cases hc : source.contains t = true
    · rw [if_pos hc]
    · by_cases hd : inDocument (Anchor.ofNode t).first (lines document).length = true
      · have hext : extentInDocument (Anchor.ofNode source).first (Anchor.ofNode source).last
            (lines document).length = false := by
          rw [isRefused_some, show inDocument t.line (lines document).length = true from hd,
            Bool.not_eq_true _ |>.mp hc] at h
          simp only [Bool.not_true, Bool.or_self, Bool.false_or, Bool.not_eq_true'] at h
          exact h
        rw [if_neg hc, if_neg (by simp [hd]), if_neg (by simp [hext])]
      · rw [if_neg hc, if_pos (by simp [hd])]

theorem extent_of_not_refused {count : Nat} {source : Node String Int}
    {target : Option (Node String Int)} (h : isRefused count source target = false) :
    extentInDocument source.line source.lastLine count = true := by
  simp only [isRefused, Bool.or_eq_false_iff, Bool.not_eq_false'] at h
  exact h.2

/-- The position among the remaining lines of a block that moves under a target. -/
def landing (c : Cut) (insertion : Int) : Int :=
  if c.last ≤ insertion then
    insertion - (if c.after.isEmpty then c.block.length - 1 else c.block.length : Nat)
  else insertion

/-- A block that goes in front of where it was: the lines it passes stay above what is left. -/
theorem splice_landing_before (c : Cut) {xs ys : List Line} (h : c.before = xs ++ ys)
    (run : List Line) :
    splice (c.before ++ c.rest) (landing c xs.length) run = xs ++ run ++ (ys ++ c.rest) := by
  have hpos : 0 < c.block.length := List.length_pos_iff.mpr c.block_ne
  have hland : landing c xs.length = xs.length := by
    rw [landing, Cut.last, h, List.length_append]
    apply if_neg
    omega
  rw [hland, h, List.append_assoc, splice_append]

/-- A block that goes behind where it was: the lines it passes move up. -/
theorem splice_landing_after (c : Cut) {xs ys : List Line} (h : c.after = xs ++ ys)
    (hne : c.after ≠ []) (run : List Line) :
    splice (c.before ++ c.rest) (landing c (c.last + xs.length)) run =
      c.before ++ xs ++ run ++ ys := by
  have hrest : c.rest = xs ++ ys := by
    rw [Cut.rest, if_neg (by simp [hne]), h]
  have hland : landing c (c.last + xs.length) = (c.before ++ xs).length := by
    rw [landing, if_pos (by omega), if_neg (by simp [hne]), Cut.last, List.length_append]
    omega
  rw [hland, hrest, ← List.append_assoc, splice_append]

/-- A block that ends with the text and goes to its end: the empty line it leaves stays above. -/
theorem splice_landing_end (c : Cut) (h : c.after = []) (run : List Line) :
    splice (c.before ++ c.rest) (landing c c.last) run = c.before ++ [[]] ++ run := by
  have hpos : 0 < c.block.length := List.length_pos_iff.mpr c.block_ne
  have hrest : c.rest = [[]] := by
    rw [Cut.rest, if_pos (by simp [h])]
  have hland : landing c c.last = (c.before ++ [[]]).length := by
    rw [landing, if_pos (Int.le_refl _), if_pos (by simp [h]), Cut.last, List.length_append,
      List.length_singleton]
    omega
  have hsplice := splice_append (c.before ++ [[]]) [] run
  rw [List.append_nil, List.append_nil] at hsplice
  rw [hland, hrest, hsplice]

/-- A block that lands outside its extent comes right after the lines that are in front of it
without the block, but for blank lines. -/
theorem exists_splice_landing (c : Cut) (insertion : Nat) (hle : insertion ≤ c.lines.length)
    (h : (insertion : Int) < c.first ∨ c.last ≤ insertion) (run : List Line) :
    ∃ gap lower, content gap = [] ∧ splice (c.before ++ c.rest) (landing c insertion) run =
      outside (c.lines.take insertion) c.first c.last ++ gap ++ run ++ lower := by
  rcases h with h | h
  · have hb : insertion ≤ c.before.length := by
      unfold Cut.first at h
      omega
    have hlen : (c.before.take insertion).length = insertion := by
      rw [List.length_take]
      omega
    have hout : outside (c.lines.take insertion) c.first c.last = c.before.take insertion := by
      rw [outside, c.toNat_first, c.toNat_last, List.take_take, Nat.min_eq_right hb,
        List.drop_eq_nil_of_le (by rw [List.length_take, List.length_append]; omega),
        List.append_nil, Cut.lines, List.append_assoc, List.take_append_of_le_length hb]
    have hs := splice_landing_before c (List.take_append_drop insertion c.before).symm run
    rw [hlen] at hs
    refine ⟨[], c.before.drop insertion ++ c.rest, rfl, ?_⟩
    rw [hs, hout, List.append_nil]
  · by_cases hne : c.after = []
    · -- the text ends with the block, so the place of the child is its end
      have hat : (insertion : Int) = c.last := by
        have := c.last_eq_length_iff.mpr hne
        omega
      have hout : outside (c.lines.take insertion) c.first c.last = c.before := by
        rw [List.take_of_length_le (by have := c.last_eq_length_iff.mpr hne; omega), c.outside_eq,
          hne, List.append_nil]
      exact ⟨[[]], [], rfl, by rw [hat, splice_landing_end c hne, hout, List.append_nil]⟩
    · obtain ⟨k, hk⟩ : ∃ k : Nat, (insertion : Int) = c.last + k :=
        ⟨(insertion - c.last).toNat, by omega⟩
      have hkle : k ≤ c.after.length := by
        rw [c.length_lines, List.length_append] at hle
        unfold Cut.last at hk
        omega
      have hlen : (c.after.take k).length = k := by
        rw [List.length_take]
        omega
      -- the lines in front of the place are cut around the same block
      have hout := Cut.outside_eq ⟨c.before, c.block, c.after.take k, c.block_ne⟩
      have htake : c.lines.take insertion = c.before ++ c.block ++ c.after.take k := by
        have hi : insertion = (c.before ++ c.block).length + k := by
          rw [List.length_append]
          unfold Cut.last at hk
          omega
        rw [hi, Cut.lines, List.take_length_add_append]
      have hs := splice_landing_after c (List.take_append_drop k c.after).symm hne run
      rw [hlen, ← hk] at hs
      refine ⟨[], c.after.drop k, rfl, ?_⟩
      rw [hs, htake, List.append_nil]
      exact congrArg (· ++ run ++ c.after.drop k) hout.symm

/-- The text is cut around the extent of a node. -/
structure Cut.Around (c : Cut) (ls : List Line) (n : Node String Int) : Prop where
  lines_eq : c.lines = ls
  first_eq : c.first = n.line
  last_eq : c.last = n.lastLine

namespace Cut.Around

variable {c : Cut} {ls : List Line} {n : Node String Int}

theorem extentLines_eq (hc : c.Around ls n) : extentLines ls n.line n.lastLine = c.block := by
  rw [← hc.lines_eq, ← hc.first_eq, ← hc.last_eq, c.extentLines_eq]

theorem before_rest_eq (hc : c.Around ls n) : c.before ++ c.rest =
    outside ls n.line n.lastLine ++ if n.lastLine = ls.length then [[]] else [] := by
  rw [c.before_rest_eq, hc.lines_eq, hc.first_eq, hc.last_eq]

theorem lastLine_eq_iff (hc : c.Around ls n) : n.lastLine = ls.length ↔ c.after = [] := by
  rw [← hc.last_eq, ← hc.lines_eq]
  exact c.last_eq_length_iff

end Cut.Around

theorem exists_cut_around {ls : List Line} {source : Node String Int}
    {target : Option (Node String Int)} (h : isRefused ls.length source target = false) :
    ∃ c : Cut, c.Around ls source := by
  obtain ⟨c, h1, h2, h3⟩ := Cut.exists_of_extent (extent_of_not_refused h)
  exact ⟨c, h1, h2, h3⟩

section
variable {document : String} {source : Node String Int} {c : Cut}
  (hc : c.Around (lines document) source)
include hc

theorem move_none_text (h : isRefused (lines document).length source none = false) (width : Int) :
    (move document source none width).text = ofLines (append (c.before ++ c.rest) c.block) := by
  have hext : extentInDocument (Anchor.ofNode source).first (Anchor.ofNode source).last
      (lines document).length = true := extent_of_not_refused h
  unfold move moveAnchors
  simp only [Option.map_none]
  rw [if_pos hext]
  show ofLines (append (remaining (lines document) (source.line - 1).toNat source.lastLine.toNat)
    (extentLines (lines document) source.line source.lastLine)) = _
  rw [← hc.lines_eq, ← hc.first_eq, ← hc.last_eq, c.remaining_eq, c.extentLines_eq]

theorem move_some_text {t : Node String Int}
    (h : isRefused (lines document).length source (some t) = false) (width : Int) :
    (move document source (some t) width).text =
      ofLines (splice (c.before ++ c.rest) (landing c t.insertionLine)
        (reindent c.block (indentAt (lines document) t.line + width))) := by
  have hext : extentInDocument (Anchor.ofNode source).first (Anchor.ofNode source).last
      (lines document).length = true := extent_of_not_refused h
  rw [isRefused_some, Bool.or_eq_false_iff, Bool.or_eq_false_iff, Bool.not_eq_false'] at h
  have hd : inDocument (Anchor.ofNode t).first (lines document).length = true := h.1.2
  unfold move moveAnchors
  simp only [Option.map_some, Option.any_some]
  rw [if_neg (by simp [h.1.1]), if_neg (by simp [hd]), if_pos hext]
  show ofLines (splice (remaining (lines document) (source.line - 1).toNat source.lastLine.toNat)
    (if t.insertionLine ≥ source.lastLine.toNat then t.insertionLine -
        removedCount (lines document) (source.line - 1).toNat source.lastLine.toNat
      else t.insertionLine)
    (reindent (extentLines (lines document) source.line source.lastLine)
      (indentAt (lines document) t.line + width))) = _
  have hpos : (source.lastLine.toNat : Int) = c.last := by
    rw [← hc.last_eq, c.toNat_last, Cut.last, List.length_append]
    omega
  rw [hpos, ← hc.lines_eq, ← hc.first_eq, ← hc.last_eq, c.remaining_eq, c.removedCount_eq,
    c.extentLines_eq, landing]

theorem noBreaks_cut : NoBreaks c.lines := by
  rw [hc.lines_eq]
  exact noBreaks_lines document

/-- Joining what a block was spliced into and cutting again gives the same lines. -/
theorem lines_ofLines_spliced {run result : List Line}
    (hs : Spliced (c.before ++ c.rest) run result) (hrun : run.map trim = c.block.map trim)
    (hb : NoBreaks run) : lines (ofLines result) = result := by
  have hne : run ≠ [] := by
    intro hnil
    rw [hnil, List.map_nil, eq_comm, List.map_eq_nil_iff] at hrun
    exact c.block_ne hrun
  exact lines_ofLines (hs.ne_nil hne)
    (hs.noBreaks (c.noBreaks_before_rest (noBreaks_cut hc)) hb)

theorem lines_move_none (h : isRefused (lines document).length source none = false) (width : Int) :
    lines (move document source none width).text = append (c.before ++ c.rest) c.block := by
  rw [move_none_text hc h]
  exact lines_ofLines_spliced hc (spliced_append _ _) rfl (c.noBreaks_block (noBreaks_cut hc))

theorem lines_move_some {t : Node String Int}
    (h : isRefused (lines document).length source (some t) = false) (width : Int) :
    lines (move document source (some t) width).text =
      splice (c.before ++ c.rest) (landing c t.insertionLine)
        (reindent c.block (indentAt (lines document) t.line + width)) := by
  rw [move_some_text hc h]
  exact lines_ofLines_spliced hc (spliced_splice _ _ _) (map_trim_reindent _ _)
    (noBreaks_reindent (c.noBreaks_block (noBreaks_cut hc)) _)

/-- A move puts in one run of lines, with the texts of the block, where the block was taken out. -/
theorem spliced_move {target : Option (Node String Int)}
    (h : isRefused (lines document).length source target = false) (width : Int) :
    ∃ run, Spliced (c.before ++ c.rest) run (lines (move document source target width).text) ∧
      run.map trim = c.block.map trim ∧ (target = none → run = c.block) := by
  cases target with
  | none =>
    rw [lines_move_none hc h]
    exact ⟨c.block, spliced_append _ _, rfl, fun _ => rfl⟩
  | some t =>
    rw [lines_move_some hc h]
    exact ⟨_, spliced_splice _ _ _, map_trim_reindent _ _, fun h => by cases h⟩

end

/-! ## Nothing is lost and nothing doubled -/

theorem texts_before_rest (c : Cut) : texts (c.before ++ c.rest) = texts (c.before ++ c.after) := by
  have hblank : texts [[]] = [] := rfl
  unfold Cut.rest
  by_cases h : c.after = []
  · rw [if_pos (by simp [h]), h, texts_append, hblank, List.append_nil, List.append_nil]
  · rw [if_neg (by simp [h])]

theorem texts_of_spliced (c : Cut) {run result : List Line}
    (hs : Spliced (c.before ++ c.rest) run result) (hrun : run.map trim = c.block.map trim) :
    (texts result).Perm (texts c.lines) := by
  have hsame : texts (run ++ (c.before ++ c.rest)) = texts (c.block ++ (c.before ++ c.after)) := by
    rw [texts_append run, texts_append c.block, texts_congr hrun, texts_before_rest]
  have hperm : (c.block ++ (c.before ++ c.after)).Perm c.lines := by
    rw [Cut.lines, ← List.append_assoc]
    exact List.perm_append_comm.append_right c.after
  refine (texts_perm hs.perm).trans ?_
  rw [hsame]
  exact texts_perm hperm

/-- **No text is lost or doubled by a move.**  Whatever lines the nodes name and whatever the width,
a move is refused and leaves the document as it is, or its lines are those outside the extent of
the source, in order, with one run of lines put in that has the texts of the extent line by line
(without a target, the very lines), and one empty line more exactly when the extent ends with the
document.  The texts of the document are the same either way. -/
theorem move_conserves_lines (document : String) (source : Node String Int)
    (target : Option (Node String Int)) (width : Int) :
    (if isRefused (lines document).length source target then
        (move document source target width).text = document
      else ∃ run,
        Spliced (outside (lines document) source.line source.lastLine ++
            if source.lastLine = (lines document).length then [[]] else [])
          run (lines (move document source target width).text) ∧
        (run.length : Int) = source.lastLine - source.line + 1 ∧
        run.map trim = (extentLines (lines document) source.line source.lastLine).map trim ∧
        (target = none → run = extentLines (lines document) source.line source.lastLine)) ∧
      (texts (lines (move document source target width).text)).Perm (texts (lines document)) := by
  by_cases hr : isRefused (lines document).length source target = true
  · have hsame := move_of_refused hr width
    rw [if_pos hr, hsame]
    exact ⟨rfl, List.Perm.refl _⟩
  · have hr' : isRefused (lines document).length source target = false := by simpa using hr
    obtain ⟨c, hc⟩ := exists_cut_around hr'
    obtain ⟨run, hs, htrim, hnone⟩ := spliced_move hc hr' width
    have hlen : run.length = c.block.length := by
      simpa using congrArg List.length htrim
    rw [if_neg hr, hc.extentLines_eq, ← hc.before_rest_eq]
    refine ⟨⟨run, hs, ?_, htrim, hnone⟩, ?_⟩
    · rw [← hc.first_eq, ← hc.last_eq, Cut.first, Cut.last, hlen]
      omega
    · rw [← hc.lines_eq]
      exact texts_of_spliced c hs htrim

end KvMarkup.Edit

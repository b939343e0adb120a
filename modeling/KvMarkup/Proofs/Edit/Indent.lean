import KvMarkup.Edit.Indent
import KvMarkup.Proofs.Text.Lines
import KvMarkup.Proofs.Text.Trim

/-!
# What indenting keeps and where it puts a line

`reindent` works line by line and `anchor` on the lines with content.  Both write a margin and a
trimmed text, so they keep every word, and the margin of the result is known:

    trim (reindentLine o n l) = trim l                                       (trim_reindentLine)
    (reindent ls n).map trim = ls.map trim                                    (map_trim_reindent)
    l ∈ anchor ls c → isBlank l = false ∧ c.toNat ≤ leadingSpace l   (the first one with equality)

A *neat* line, blanks before a tight text, stays as it is when its block does not move.  A block
that is shifted to column `x` and then to column `y` is shifted to `y`, unless the first shift cuts
a line off at the margin and the second one goes further to the right (`reindent_reindent_iff`).
-/

namespace KvMarkup.Edit

open KvMarkup.Text

/-! ## One line -/

theorem trim_reindentLine (oldBase newBase : Int) (l : Line) :
    trim (reindentLine oldBase newBase l) = trim l := by
  unfold reindentLine
  split
  · next h => exact ((isBlank_iff_trim l).mp h).symm
  · rw [trim_blanks_append, trim_trim]

theorem isBlank_reindentLine (oldBase newBase : Int) (l : Line) :
    isBlank (reindentLine oldBase newBase l) = isBlank l := by
  rw [Bool.eq_iff_iff, isBlank_iff_trim, isBlank_iff_trim, trim_reindentLine]

theorem reindentLine_of_blank (oldBase newBase : Int) {l : Line} (h : isBlank l = true) :
    reindentLine oldBase newBase l = [] := if_pos h

theorem reindentLine_of_not_blank (oldBase newBase : Int) {l : Line} (h : isBlank l = false) :
    reindentLine oldBase newBase l =
      blanks (rebaseIndent (leadingBlanks l) oldBase newBase) ++ trim l := if_neg (by simp [h])

theorem leadingSpace_reindentLine (oldBase newBase : Int) {l : Line} (h : isBlank l = false) :
    leadingSpace (reindentLine oldBase newBase l) =
      (rebaseIndent (leadingBlanks l) oldBase newBase).toNat := by
  rw [reindentLine_of_not_blank _ _ h, leadingSpace_blanks_tight _ (tight_trim l)]

theorem leadingBlanks_reindentLine (oldBase newBase : Int) {l : Line} (h : isBlank l = false) :
    leadingBlanks (reindentLine oldBase newBase l) =
      (rebaseIndent (leadingBlanks l) oldBase newBase).toNat := by
  rw [reindentLine_of_not_blank _ _ h, leadingBlanks_blanks_tight _ (tight_trim l)]

theorem blanks_append_inj {m n : Int} {text : Line} :
    blanks m ++ text = blanks n ++ text ↔ m.toNat = n.toNat := by
  rw [List.append_left_inj, blanks, blanks, List.replicate_left_inj]

/-- The base of a line can be moved in two steps, unless the first one cuts the line off at the
margin and the second one goes to the right. -/
theorem reindentLine_reindentLine_iff {l : Line} (h : isBlank l = false)
    (oldBase midBase newBase : Int) :
    reindentLine midBase newBase (reindentLine oldBase midBase l) =
        reindentLine oldBase newBase l ↔
      newBase ≤ midBase ∨ oldBase ≤ midBase + leadingBlanks l := by
  have hmid : isBlank (reindentLine oldBase midBase l) = false := by
    rw [isBlank_reindentLine, h]
  rw [reindentLine_of_not_blank _ _ hmid, trim_reindentLine, leadingBlanks_reindentLine _ _ h,
    reindentLine_of_not_blank _ _ h, blanks_append_inj]
  unfold rebaseIndent
  omega

theorem not_mem_blanks_trim {c : Char} (hc : c ≠ ' ') (n : Int) {l : Line} (h : c ∉ l) :
    c ∉ blanks n ++ trim l := by
  intro hm
  rcases List.mem_append.mp hm with hm | hm
  · exact hc (List.eq_of_mem_replicate hm)
  · exact h (trim_subset l hm)

theorem not_mem_reindentLine {c : Char} (hc : c ≠ ' ') (oldBase newBase : Int) {l : Line}
    (h : c ∉ l) : c ∉ reindentLine oldBase newBase l := by
  unfold reindentLine
  split
  · exact List.not_mem_nil
  · exact not_mem_blanks_trim hc _ h

/-- An empty line, or blanks before a text that neither begins nor ends with white space. -/
def Neat (l : Line) : Prop :=
  l = [] ∨ ∃ (n : Nat) (text : Line), l = blanks n ++ text ∧ text ≠ [] ∧ Tight text

theorem not_blank_blanks_tight (n : Int) {text : Line} (hne : text ≠ []) (htight : Tight text) :
    isBlank (blanks n ++ text) = false := by
  rw [isBlank_blanks_append, Bool.eq_false_iff, Ne, isBlank_iff_trim, trim_eq_of_tight htight]
  exact hne

theorem Neat.not_blank {l : Line} (h : Neat l) (hne : l ≠ []) : isBlank l = false := by
  rcases h with rfl | ⟨n, text, rfl, htext, htight⟩
  · exact absurd rfl hne
  · exact not_blank_blanks_tight n htext htight

/-- A neat line is its blanks and its trimmed text. -/
theorem Neat.blanks_append_trim {l : Line} (h : Neat l) :
    blanks (leadingBlanks l) ++ trim l = l := by
  rcases h with rfl | ⟨n, text, rfl, -, htight⟩
  · rfl
  · rw [trim_blanks_append, trim_eq_of_tight htight, leadingBlanks_blanks_tight _ htight,
      Int.toNat_natCast]

theorem Neat.leadingBlanks_eq {l : Line} (h : Neat l) : leadingBlanks l = leadingSpace l := by
  rcases h with rfl | ⟨n, text, rfl, -, htight⟩
  · rfl
  · rw [leadingBlanks_blanks_tight _ htight, leadingSpace_blanks_tight _ htight]

theorem reindentLine_self {l : Line} (h : Neat l) (base : Int) : reindentLine base base l = l := by
  by_cases hne : l = []
  · rw [hne]
    rfl
  · have hindent : rebaseIndent (leadingBlanks l) base base = leadingBlanks l := by
      unfold rebaseIndent
      omega
    rw [reindentLine_of_not_blank _ _ (h.not_blank hne), hindent, h.blanks_append_trim]

/-! ## A block -/

theorem reindent_eq_map (ls : List Line) (newBase : Int) :
    reindent ls newBase = ls.map (reindentLine (leadingBlanks (ls.headD [])) newBase) := by
  cases ls <;> rfl

theorem length_reindent (ls : List Line) (newBase : Int) :
    (reindent ls newBase).length = ls.length := by
  rw [reindent_eq_map, List.length_map]

theorem map_trim_reindent (ls : List Line) (newBase : Int) :
    (reindent ls newBase).map trim = ls.map trim := by
  rw [reindent_eq_map, List.map_map]
  exact List.map_congr_left fun l _ => trim_reindentLine _ _ l

theorem noBreaks_reindent {ls : List Line} (h : NoBreaks ls) (newBase : Int) :
    NoBreaks (reindent ls newBase) := by
  rw [reindent_eq_map]
  intro l hl
  obtain ⟨m, hm, rfl⟩ := List.mem_map.mp hl
  exact not_mem_reindentLine (by decide) _ _ (h m hm)

/-- A block whose lines are indented no less than its first one ends up at its new column or to the
right of it. -/
theorem le_leadingSpace_reindent {ls : List Line} {newBase : Int}
    (h : ∀ l ∈ content ls, leadingBlanks (ls.headD []) ≤ leadingBlanks l) {l : Line}
    (hl : l ∈ content (reindent ls newBase)) : newBase ≤ leadingSpace l := by
  obtain ⟨hmem, hblank⟩ := mem_content.mp hl
  rw [reindent_eq_map] at hmem
  obtain ⟨m, hm, rfl⟩ := List.mem_map.mp hmem
  rw [isBlank_reindentLine] at hblank
  rw [leadingSpace_reindentLine _ _ hblank, rebaseIndent]
  have := h m (mem_content.mpr ⟨hm, hblank⟩)
  omega

/-- A neat block whose first line stands at the new column already does not change. -/
theorem reindent_eq_self {ls : List Line} {newBase : Int} (h : ∀ l ∈ ls, Neat l)
    (hbase : newBase = leadingBlanks (ls.headD [])) : reindent ls newBase = ls := by
  rw [reindent_eq_map, hbase]
  calc ls.map (reindentLine (leadingBlanks (ls.headD [])) (leadingBlanks (ls.headD [])))
      = ls.map id := List.map_congr_left fun l hl => reindentLine_self (h l hl) _
    _ = ls := List.map_id ls

theorem headD_reindent (ls : List Line) (newBase : Int) :
    (reindent ls newBase).headD [] =
      reindentLine (leadingBlanks (ls.headD [])) newBase (ls.headD []) := by
  cases ls <;> rfl

/-- A block that begins with content shows the column that it was shifted to. -/
theorem leadingBlanks_headD_reindent {ls : List Line} (hfirst : isBlank (ls.headD []) = false)
    {newBase : Int} (hnew : 0 ≤ newBase) :
    (leadingBlanks ((reindent ls newBase).headD []) : Int) = newBase := by
  rw [headD_reindent, leadingBlanks_reindentLine _ _ hfirst, rebaseIndent]
  omega

/-- A block can be shifted in two steps, unless the first one cuts a line off at the margin and the
second one goes further to the right. -/
theorem reindent_reindent_iff {ls : List Line} (hfirst : isBlank (ls.headD []) = false) {x : Int}
    (hx : 0 ≤ x) (y : Int) :
    reindent (reindent ls x) y = reindent ls y ↔
      y ≤ x ∨ ∀ l ∈ content ls, (leadingBlanks (ls.headD []) : Int) ≤ x + leadingBlanks l := by
  rw [reindent_eq_map (reindent ls x), leadingBlanks_headD_reindent hfirst hx, reindent_eq_map ls,
    reindent_eq_map ls, List.map_map, List.map_inj_left]
  constructor
  · intro h
    by_cases hyx : y ≤ x
    · exact .inl hyx
    · refine .inr fun l hl => ?_
      obtain ⟨hmem, hblank⟩ := mem_content.mp hl
      exact ((reindentLine_reindentLine_iff hblank _ _ _).mp (h l hmem)).resolve_left hyx
  · intro h l hmem
    rw [Function.comp_apply]
    cases hblank : isBlank l with
    | true =>
      rw [reindentLine_of_blank _ _ hblank, reindentLine_of_blank _ _ hblank]
      rfl
    | false =>
      exact (reindentLine_reindentLine_iff hblank _ _ _).mpr
        (h.imp_right fun hroom => hroom l (mem_content.mpr ⟨hmem, hblank⟩))

-- `b: 1` is cut off at the margin and does not get back to the left of `A:`
example : reindent (reindent ["  A:".toList, "b: 1".toList] 0) 4 ≠
    reindent ["  A:".toList, "b: 1".toList] 4 := by decide

/-- A block of neat lines that begins with content and has none to the left of its first line. -/
structure Hanging (block : List Line) : Prop where
  neat : ∀ l ∈ block, Neat l
  first_ne : block.headD [] ≠ []
  margin : ∀ l ∈ block, l ≠ [] → leadingBlanks (block.headD []) ≤ leadingBlanks l

/-- A hanging block that is shifted to a column and back does not change. -/
theorem reindent_back {block : List Line} (h : Hanging block) {newBase : Int}
    (hnew : 0 ≤ newBase) :
    reindent (reindent block newBase) (leadingBlanks (block.headD [])) = block := by
  obtain ⟨hneat, hfirst, hmargin⟩ := h
  cases block with
  | nil => rfl
  | cons first rest =>
    have hblank : isBlank ((first :: rest).headD []) = false :=
      (hneat first List.mem_cons_self).not_blank hfirst
    have hroom : ∀ l ∈ content (first :: rest),
        (leadingBlanks ((first :: rest).headD []) : Int) ≤ newBase + leadingBlanks l := by
      intro l hl
      obtain ⟨hmem, hcontent⟩ := mem_content.mp hl
      have := hmargin l hmem (by rintro rfl; cases hcontent)
      omega
    rw [(reindent_reindent_iff hblank hnew _).mpr (.inr hroom)]
    exact reindent_eq_self hneat rfl

/-! ## A snippet -/

theorem dropEndMark_of_mark {cs xs : List Char} (h : trimEnd cs = xs ++ endMark) :
    dropEndMark cs = xs := by
  have hmark : endMark.isSuffixOf (xs ++ endMark) = true :=
    List.isSuffixOf_iff_suffix.mpr (List.suffix_append xs endMark)
  unfold dropEndMark
  simp only
  rw [h, if_pos hmark, List.length_append, Nat.add_sub_cancel, List.take_left]

theorem dropEndMark_of_no_mark {cs : List Char} (h : ¬ endMark <:+ trimEnd cs) :
    dropEndMark cs = cs := by
  unfold dropEndMark
  simp only
  rw [if_neg (mt List.isSuffixOf_iff_suffix.mp h)]

theorem anchor_eq_map (ls : List Line) (column : Int) :
    anchor ls column = (content ls).map fun l =>
      blanks (column + relativeIndent (leadingBlanks l) (firstIndent ls)) ++ trim l := rfl

theorem mem_anchor {ls : List Line} {column : Int} {l : Line} (h : l ∈ anchor ls column) :
    ∃ m ∈ content ls, ∃ d : Int, 0 ≤ d ∧ l = blanks (column + d) ++ trim m := by
  rw [anchor_eq_map] at h
  obtain ⟨m, hm, rfl⟩ := List.mem_map.mp h
  exact ⟨m, hm, _, Int.le_max_left _ _, rfl⟩

theorem not_blank_of_mem_anchor {ls : List Line} {column : Int} {l : Line}
    (h : l ∈ anchor ls column) : isBlank l = false := by
  obtain ⟨m, hm, d, -, rfl⟩ := mem_anchor h
  rw [isBlank_blanks_append, isBlank_trim]
  exact (mem_content.mp hm).2

theorem neat_of_mem_anchor {ls : List Line} {column : Int} {l : Line} (h : l ∈ anchor ls column) :
    Neat l := by
  obtain ⟨m, hm, d, -, rfl⟩ := mem_anchor h
  refine .inr ⟨(column + d).toNat, trim m, rfl, ?_, tight_trim m⟩
  rw [Ne, ← isBlank_iff_trim, (mem_content.mp hm).2]
  exact Bool.false_ne_true

theorem le_leadingSpace_anchor {ls : List Line} {column : Int} {l : Line}
    (h : l ∈ anchor ls column) : column ≤ leadingSpace l := by
  obtain ⟨m, -, d, hd, rfl⟩ := mem_anchor h
  rw [leadingSpace_blanks_tight _ (tight_trim m)]
  omega

theorem noBreaks_anchor {ls : List Line} (h : NoBreaks ls) (column : Int) :
    NoBreaks (anchor ls column) := by
  intro l hl
  obtain ⟨m, hm, d, -, rfl⟩ := mem_anchor hl
  exact not_mem_blanks_trim (by decide) _ (h m (mem_content.mp hm).1)

theorem firstIndent_eq (ls : List Line) :
    firstIndent ls = ((content ls).head?.map leadingBlanks).getD 0 := by
  induction ls with
  | nil => rfl
  | cons l ls ih =>
    rw [firstIndent]
    split
    · next h => rw [ih, content_cons_of_blank h]
    · next h => rw [content_cons_of_not_blank (by simpa using h)]; rfl

/-- The first line of an anchored snippet stands at the column. -/
theorem leadingSpace_head_anchor {ls : List Line} {column : Int} {l : Line}
    (h : l ∈ (anchor ls column).head?) : leadingSpace l = column.toNat := by
  rw [anchor_eq_map, firstIndent_eq, List.head?_map] at h
  obtain ⟨m, hm, rfl⟩ := Option.map_eq_some_iff.mp h
  rw [hm, leadingSpace_blanks_tight _ (tight_trim m)]
  simp [relativeIndent]

theorem noBreaks_anchoredSnippet (snippet : String) (column : Int) :
    NoBreaks (anchoredSnippet snippet column) :=
  noBreaks_anchor (noBreaks_splitOn _) column

end KvMarkup.Edit

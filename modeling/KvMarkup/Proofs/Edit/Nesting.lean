import KvMarkup.Proofs.Edit.Indent

/-!
# Indenting what has been indented

A block that is shifted, or a snippet that is put at a column, keeps how its lines stand to each
other, so that a second shift or a second column makes up for the first one:

    reindent (reindent ls x) y = reindent ls y                                (reindent_reindent)
    anchor (anchor ls a) b = anchor ls b                                          (anchor_anchor)

The second step reads its base off the first line that the first step wrote.  For a snippet the
equation always holds: blank lines and distances to the left of the first line are lost in the first
step, and the second one by itself loses them as well.  Lines that stand at a column (`Anchored`)
have none of these, and they are the lines that `anchor` leaves as they are (`anchor_eq_self_iff`).
A block keeps its distances to the left, but no line can stand to the left of the margin; the
equation holds if none is cut off there.
-/

namespace KvMarkup.Edit

open KvMarkup.Text

/-! ## A block that is shifted twice -/

/-- Where a line of a block stands that is not cut off at the margin. -/
theorem getElem?_reindent {ls : List Line} {x : Int} {i : Nat} {l : Line} (hl : ls[i]? = some l)
    (hblank : isBlank l = false)
    (hroom : (leadingBlanks (ls.headD []) : Int) ≤ x + leadingBlanks l) :
    ∃ l', (reindent ls x)[i]? = some l' ∧
      (leadingBlanks l' : Int) = x + leadingBlanks l - leadingBlanks (ls.headD []) := by
  refine ⟨_, by rw [reindent_eq_map, List.getElem?_map, hl, Option.map_some], ?_⟩
  rw [leadingBlanks_reindentLine _ _ hblank, rebaseIndent]
  omega

/-- **A second shift makes up for the first one.**  The first line of the block has content and is
shifted to the column `x`, and no line with content is so far to the left of it that the margin cuts
it off there.  Then a further shift gives what it gives for the block itself, and any two lines with
content are as far apart as before.  Lines may stand to the left of the first one, and blank lines
may be in between. -/
theorem reindent_reindent {ls : List Line} (hfirst : isBlank (ls.headD []) = false) {x : Int}
    (hx : 0 ≤ x)
    (hroom : ∀ l ∈ ls, isBlank l = false →
      (leadingBlanks (ls.headD []) : Int) ≤ x + leadingBlanks l) :
    (∀ y, reindent (reindent ls x) y = reindent ls y) ∧
    ∀ (i j : Nat) (l m : Line), ls[i]? = some l → ls[j]? = some m →
      isBlank l = false → isBlank m = false →
      ∃ l' m', (reindent ls x)[i]? = some l' ∧ (reindent ls x)[j]? = some m' ∧
        (leadingBlanks l' : Int) - leadingBlanks m' = leadingBlanks l - leadingBlanks m := by
  refine ⟨fun y => ?_, fun i j l m hi hj hl hm => ?_⟩
  · refine (reindent_reindent_iff hfirst hx y).mpr (.inr fun l hl => ?_)
    obtain ⟨hmem, hblank⟩ := mem_content.mp hl
    exact hroom l hmem hblank
  · obtain ⟨l', hl', hindent⟩ := getElem?_reindent hi hl (hroom l (List.mem_of_getElem? hi) hl)
    obtain ⟨m', hm', hindent'⟩ := getElem?_reindent hj hm (hroom m (List.mem_of_getElem? hj) hm)
    exact ⟨l', m', hl', hm', by omega⟩

/-- A block with a line to the left of its first one, which two columns are just enough for. -/
def outdented : List Line :=
  ["    A:  ".toList, "\t ".toList, "  c: 2".toList, "        b: 1".toList]

theorem reindent_reindent_outdented :
    reindent (reindent outdented 2) 7 = reindent outdented 7 ∧
    ∃ l' m', (reindent outdented 2)[2]? = some l' ∧ (reindent outdented 2)[3]? = some m' ∧
      (leadingBlanks l' : Int) - leadingBlanks m' = 2 - 8 := by
  have hfirst : isBlank (outdented.headD []) = false := by decide
  obtain ⟨htwice, hapart⟩ := reindent_reindent hfirst (show (0 : Int) ≤ 2 by decide) (by decide)
  exact ⟨htwice 7, hapart 2 3 _ _ rfl rfl (by decide) (by decide)⟩

/-! ## A snippet that is put at a column twice -/

/-- Lines that stand at a column: none is blank, each is blanks and a text with no white space
around it, the first one is at the column and none is to the left of it. -/
structure Anchored (column : Int) (ls : List Line) : Prop where
  not_blank : ∀ l ∈ ls, isBlank l = false
  neat : ∀ l ∈ ls, Neat l
  head_eq : ∀ l ∈ ls.head?, (leadingBlanks l : Int) = column
  le : ∀ l ∈ ls, column ≤ leadingBlanks l

theorem anchored_anchor {column : Int} (hc : 0 ≤ column) (ls : List Line) :
    Anchored column (anchor ls column) where
  not_blank _ hl := not_blank_of_mem_anchor hl
  neat _ hl := neat_of_mem_anchor hl
  head_eq l hl := by
    have hneat := neat_of_mem_anchor (List.mem_of_mem_head? hl)
    rw [hneat.leadingBlanks_eq, leadingSpace_head_anchor hl, Int.toNat_of_nonneg hc]
  le l hl := by
    rw [(neat_of_mem_anchor hl).leadingBlanks_eq]
    exact le_leadingSpace_anchor hl

/-- No distance of lines that stand at a column is cut off. -/
theorem Anchored.anchor_eq {a : Int} {ls : List Line} (h : Anchored a ls) (b : Int) :
    anchor ls b = ls.map fun l => blanks (b + (leadingBlanks l - a)) ++ trim l := by
  rw [anchor_eq_map, firstIndent_eq, content_eq_self h.not_blank]
  refine List.map_congr_left fun l hl => ?_
  have hle := h.le l hl
  cases hhead : ls.head? with
  | none =>
    rw [List.head?_eq_none_iff.mp hhead] at hl
    cases hl
  | some first =>
    rw [Option.map_some, Option.getD_some, relativeIndent, h.head_eq first hhead,
      Int.max_eq_right (by omega)]

/-- The snippets that stay as they are at a column are those that stand at it. -/
theorem anchor_eq_self_iff {column : Int} (hc : 0 ≤ column) {ls : List Line} :
    anchor ls column = ls ↔ Anchored column ls := by
  constructor
  · intro h
    rw [← h]
    exact anchored_anchor hc ls
  · intro h
    have hline : ∀ l ∈ ls, blanks (column + (leadingBlanks l - column)) ++ trim l = id l := by
      intro l hl
      rw [show column + (leadingBlanks l - column) = leadingBlanks l by omega,
        (h.neat l hl).blanks_append_trim, id]
    rw [h.anchor_eq column, List.map_congr_left hline, List.map_id]

/-- **A column is forgotten at the next one.**  A snippet that is put at one column and then at
another comes out as if it had been put at the other one alone, so that nothing changes if the two
are the same.  What is put at a column has no blank line and no line to the left of the column. -/
theorem anchor_anchor {a b : Int} (ha : 0 ≤ a) (hb : 0 ≤ b) (ls : List Line) :
    anchor (anchor ls a) b = anchor ls b ∧ anchor (anchor ls b) b = anchor ls b ∧
      ∀ l ∈ anchor ls b, isBlank l = false ∧ b ≤ leadingBlanks l := by
  have hanchored := anchored_anchor hb ls
  refine ⟨?_, (anchor_eq_self_iff hb).mpr hanchored, fun l hl =>
    ⟨hanchored.not_blank l hl, hanchored.le l hl⟩⟩
  rw [(anchored_anchor ha ls).anchor_eq b, anchor_eq_map ls a, anchor_eq_map ls b, List.map_map]
  refine List.map_congr_left fun l _ => ?_
  -- the first column is not negative, so the second step can read off what the first one wrote
  have hdistance : 0 ≤ relativeIndent (leadingBlanks l) (firstIndent ls) := Int.le_max_left _ _
  rw [Function.comp_apply, leadingBlanks_blanks_tight _ (tight_trim l), trim_blanks_append,
    trim_trim]
  congr 2
  omega

theorem anchor_anchor_outdented :
    anchor (anchor outdented 3) 8 = anchor outdented 8 ∧
      anchor (anchor outdented 8) 8 = anchor outdented 8 ∧
      ∀ l ∈ anchor outdented 8, isBlank l = false ∧ 8 ≤ leadingBlanks l := by
  obtain ⟨htwice, hsame, hlines⟩ :=
    anchor_anchor (show (0 : Int) ≤ 3 by decide) (show (0 : Int) ≤ 8 by decide) outdented
  exact ⟨htwice, hsame, fun l hl => ⟨(hlines l hl).1, by have := (hlines l hl).2; omega⟩⟩

end KvMarkup.Edit

import KvMarkup.Edit.Move
import KvMarkup.Proofs.Edit.Indent
import KvMarkup.Proofs.Text.LineEnding

/-!
# Edits of texts with other line endings

An edit cuts its text at line feeds, so every line of a text with CR LF endings but the last carries
a carriage return through it.  Each step of an edit takes lines that agree up to a carriage return
to lines that do:

* what is indented is trimmed first, so a block and a snippet come out the same;
* cutting out and putting in takes lines as they are, at places that only their number decides;
* the one line that is looked at as a whole, to see whether it is empty, is the last, and that has
  no carriage return.

So an edit of a text with carriage returns gives what it gives without them, up to the carriage
returns of the lines that it keeps.
-/

namespace KvMarkup.Edit

open KvMarkup.Text KvMarkup.Outline

/-! ## Indenting -/

theorem reindentLine_append_return (oldBase newBase : Int) (l : Line) :
    reindentLine oldBase newBase (l ++ ['\r']) = reindentLine oldBase newBase l := by
  unfold reindentLine
  rw [isBlank_append_return, leadingBlanks_append_return, trim_append_return]

section
variable {ls ls' bs bs' : List Line} (h : List.Forall₂ UpToReturn ls ls')
  (hb : List.Forall₂ UpToReturn bs bs')
include h

theorem reindent_upToReturn (newBase : Int) :
    List.Forall₂ UpToReturn (reindent ls newBase) (reindent ls' newBase) := by
  have hhead : leadingBlanks (ls'.headD []) = leadingBlanks (ls.headD []) := by
    cases h with
    | nil => rfl
    | cons hl _ => exact hl.congr leadingBlanks_append_return
  have hsame : reindent ls' newBase = reindent ls newBase := by
    rw [reindent_eq_map, reindent_eq_map, hhead]
    exact map_eq_of_upToReturn h (reindentLine_append_return _ _)
  rw [hsame]
  apply forall₂_refl
  rw [reindent_eq_map]
  intro l hl
  obtain ⟨m, hm, rfl⟩ := List.mem_map.mp hl
  exact not_mem_reindentLine (by decide) _ _ (not_mem_of_upToReturn h m hm)

theorem content_upToReturn : List.Forall₂ UpToReturn (content ls) (content ls') :=
  filter_upToReturn h fun l => by rw [isBlank_append_return]

/-- A snippet comes out the same. -/
theorem anchor_eq_of_upToReturn (column : Int) : anchor ls' column = anchor ls column := by
  have hcontent := content_upToReturn h
  have hfirst : firstIndent ls' = firstIndent ls := by
    rw [firstIndent_eq, firstIndent_eq, ← List.head?_map, ← List.head?_map,
      map_eq_of_upToReturn hcontent leadingBlanks_append_return]
  rw [anchor_eq_map, anchor_eq_map, hfirst]
  apply map_eq_of_upToReturn hcontent
  intro l
  rw [leadingBlanks_append_return, trim_append_return]

theorem indentAt_eq_of_upToReturn (line : Int) : indentAt ls' line = indentAt ls line := by
  unfold indentAt
  rcases getElem?_upToReturn h (line - 1).toNat with ⟨h1, h2⟩ | ⟨l, l', h1, h2, hl⟩
  · rw [h1, h2]
  · rw [h1, h2]
    exact hl.congr leadingBlanks_append_return

/-! ## Cutting out and putting in -/

include hb in
theorem splice_upToReturn (position : Int) :
    List.Forall₂ UpToReturn (splice ls position bs) (splice ls' position bs') := by
  unfold splice
  rw [h.length_eq]
  exact List.rel_append (List.rel_append (List.forall₂_take _ h) hb) (List.forall₂_drop _ h)

theorem remaining_upToReturn (start stop : Nat) :
    List.Forall₂ UpToReturn (remaining ls start stop) (remaining ls' start stop) := by
  unfold remaining
  rw [h.length_eq]
  split
  · exact List.rel_append (List.forall₂_take _ h) (List.forall₂_drop _ h)
  · exact List.rel_append (List.forall₂_take _ h) (forall₂_refl (by decide))

include hb in
theorem append_upToReturn (hlast : ls'.getLast? = ls.getLast?) :
    List.Forall₂ UpToReturn (append ls bs) (append ls' bs') := by
  unfold append
  rw [hlast, h.length_eq]
  split
  · exact splice_upToReturn h hb _
  · exact List.rel_append h hb

end

/-- What is left ends with the last line or with an empty one. -/
theorem getLast?_remaining (ls : List Line) (start stop : Nat) :
    (remaining ls start stop).getLast? = if stop < ls.length then ls.getLast? else some [] := by
  unfold remaining
  split
  · next h =>
    have hne : ls.drop stop ≠ [] := by
      rw [← List.length_pos_iff, List.length_drop]
      omega
    rw [List.getLast?_append_of_ne_nil _ hne, List.getLast?_drop, if_neg (by omega)]
  · rw [List.getLast?_concat]

/-! ## Snippets -/

theorem trimEnd_subset (cs : List Char) : trimEnd cs ⊆ cs :=
  (List.rdropWhile_prefix isSpace cs).subset

theorem dropEndMark_subset (cs : List Char) : dropEndMark cs ⊆ cs := by
  by_cases h : endMark <:+ trimEnd cs
  · obtain ⟨xs, hxs⟩ := h
    rw [dropEndMark_of_mark hxs.symm]
    exact List.Subset.trans (hxs ▸ List.subset_append_left xs endMark) (trimEnd_subset cs)
  · rw [dropEndMark_of_no_mark h]
    exact List.Subset.refl cs

/-- The mark at the end of a snippet is found behind line feeds of either kind. -/
theorem dropEndMark_addReturns {cs : List Char} (h : '\r' ∉ cs) :
    dropEndMark (addReturns cs) = addReturns (dropEndMark cs) := by
  by_cases hmark : endMark <:+ trimEnd cs
  · obtain ⟨xs, hxs⟩ := hmark
    rw [dropEndMark_of_mark hxs.symm]
    apply dropEndMark_of_mark
    rw [trimEnd_addReturns, ← hxs, addReturns_append]
    rfl
  · have hno : ¬ endMark <:+ trimEnd (addReturns cs) := by
      rintro ⟨ys, hys⟩
      apply hmark
      have hback := congrArg dropReturns hys
      rw [trimEnd_addReturns, dropReturns_append,
        dropReturns_addReturns fun hc => h (trimEnd_subset cs hc)] at hback
      exact ⟨dropReturns ys, hback⟩
    rw [dropEndMark_of_no_mark hno, dropEndMark_of_no_mark hmark]

theorem anchoredSnippet_crlf {snippet : String} (h : '\r' ∉ snippet.toList) (column : Int) :
    anchoredSnippet (crlf snippet) column = anchoredSnippet snippet column := by
  have hlines : ∀ l ∈ (dropEndMark snippet.toList).splitOn '\n', '\r' ∉ l :=
    fun _ hl hc => h (dropEndMark_subset _ (subset_of_mem_splitOn hl hc))
  rw [anchoredSnippet, crlf, String.toList_ofList, dropEndMark_addReturns h, splitOn_addReturns,
    anchor_eq_of_upToReturn (forall₂_withReturns hlines), anchoredSnippet]

/-- A snippet comes out the same with line endings of either kind. -/
theorem anchoredSnippet_upToReturn {snippet snippet' : String} (h : '\r' ∉ snippet.toList)
    (h' : snippet' = snippet ∨ snippet' = crlf snippet) (column : Int) :
    List.Forall₂ UpToReturn (anchoredSnippet snippet column) (anchoredSnippet snippet' column) := by
  have hsame : anchoredSnippet snippet' column = anchoredSnippet snippet column := by
    rcases h' with rfl | rfl
    · rfl
    · exact anchoredSnippet_crlf h column
  rw [hsame]
  apply forall₂_refl
  intro l hl
  obtain ⟨m, hm, d, -, rfl⟩ := mem_anchor hl
  exact not_mem_blanks_trim (by decide) _
    fun hc => h (dropEndMark_subset _ (subset_of_mem_splitOn (mem_content.mp hm).1 hc))

/-! ## Edits -/

section
variable {s s' : String} (h : SameButReturns s s')
include h

theorem withoutReturns_moveAnchors (source : Anchor) (target : Option Anchor) (cyclic : Bool)
    (width : Int) :
    withoutReturns (moveAnchors s' source target cyclic width).text =
      (moveAnchors s source target cyclic width).text := by
  have hlen := h.lines.length_eq
  have hblock : ∀ start stop, List.Forall₂ UpToReturn (((lines s).take stop).drop start)
      (((lines s').take stop).drop start) :=
    fun start stop => List.forall₂_drop _ (List.forall₂_take _ h.lines)
  unfold moveAnchors
  cases target with
  | none =>
    simp only
    rw [← hlen]
    split
    · have hlast : ∀ start stop, (remaining (lines s') start stop).getLast? =
          (remaining (lines s) start stop).getLast? := by
        intro start stop
        rw [getLast?_remaining, getLast?_remaining, h.last, hlen]
      exact withoutReturns_ofLines
        (append_upToReturn (remaining_upToReturn h.lines _ _) (hblock _ _) (hlast _ _))
    · exact h.withoutReturns_eq
  | some t =>
    simp only
    rw [← hlen, indentAt_eq_of_upToReturn h.lines]
    split
    · exact h.withoutReturns_eq
    · split
      · exact h.withoutReturns_eq
      · split
        · have hremoved : ∀ start stop, removedCount (lines s') start stop =
              removedCount (lines s) start stop := by
            intro start stop
            rw [removedCount, removedCount, hlen]
          rw [hremoved]
          exact withoutReturns_ofLines (splice_upToReturn (remaining_upToReturn h.lines _ _)
            (reindent_upToReturn (hblock _ _) _) _)
        · exact h.withoutReturns_eq

variable {snippet snippet' : String} (hs : ∀ column, List.Forall₂ UpToReturn
  (anchoredSnippet snippet column) (anchoredSnippet snippet' column))
include hs

theorem withoutReturns_insert (line column width : Int) :
    withoutReturns (insert s' snippet' line column width).text =
      (insert s snippet line column width).text := by
  have hblock := hs (roundIndent column width)
  unfold insert
  simp only
  rw [isEmpty_eq_of_upToReturn hblock, ← h.lines.length_eq]
  split
  · exact h.withoutReturns_eq
  · exact withoutReturns_ofLines (splice_upToReturn h.lines hblock _)

theorem withoutReturns_dropUnder (target : Anchor) (width : Int) :
    withoutReturns (dropUnder s' snippet' target width).text =
      (dropUnder s snippet target width).text := by
  have hblock := hs (indentAt (lines s) target.first + width)
  unfold dropUnder
  simp only
  rw [indentAt_eq_of_upToReturn h.lines, isEmpty_eq_of_upToReturn hblock, ← h.lines.length_eq]
  split
  · split
    · exact h.withoutReturns_eq
    · exact withoutReturns_ofLines (splice_upToReturn h.lines hblock _)
  · exact h.withoutReturns_eq

theorem withoutReturns_drop (target : Option (Node String Int)) (width : Int) :
    withoutReturns (drop s' snippet' target width).text = (drop s snippet target width).text := by
  cases target with
  | none =>
    rw [drop, drop, dropAtEnd, dropAtEnd, ← h.lines.length_eq]
    exact withoutReturns_insert h hs _ _ _
  | some target => exact withoutReturns_dropUnder h hs _ _

end

/-- **Edits do not see line endings.**  An edit of a text with CR LF for its line feeds, with a
snippet of either kind, gives what it gives without the carriage returns, once those of the lines
that it keeps are taken away. -/
theorem edits_ignore_returns {document snippet snippet' : String} (hd : '\r' ∉ document.toList)
    (hs : '\r' ∉ snippet.toList) (hs' : snippet' = snippet ∨ snippet' = crlf snippet) :
    (∀ line column width, withoutReturns (insert (crlf document) snippet' line column width).text =
      (insert document snippet line column width).text) ∧
    (∀ source target width, withoutReturns (move (crlf document) source target width).text =
      (move document source target width).text) ∧
    (∀ target width, withoutReturns (drop (crlf document) snippet' target width).text =
      (drop document snippet target width).text) := by
  have hsame := sameButReturns_crlf hd
  have hsnippet := anchoredSnippet_upToReturn hs hs'
  refine ⟨?_, ?_, ?_⟩
  · intro line column width
    exact withoutReturns_insert hsame hsnippet line column width
  · intro source target width
    exact withoutReturns_moveAnchors hsame _ _ _ width
  · intro target width
    exact withoutReturns_drop hsame hsnippet target width

/-- The carriage return of the first line stays where it is, and the snippet brings none in. -/
theorem edits_ignore_returns_at_cursor :
    '\r' ∉ "Root:\n    A:".toList ∧ '\r' ∉ "Label:\n    text: '1'\n".toList ∧
      (insert "Root:\r\n    A:" "Label:\r\n    text: '1'\r\n" 1 5 4).text =
        "Root:\r\n    Label:\n        text: '1'\n    A:" ∧
      withoutReturns (insert "Root:\r\n    A:" "Label:\r\n    text: '1'\r\n" 1 5 4).text =
        (insert "Root:\n    A:" "Label:\n    text: '1'\n" 1 5 4).text := by
  have hd : '\r' ∉ "Root:\n    A:".toList := by decide
  have hs : '\r' ∉ "Label:\n    text: '1'\n".toList := by decide
  have hcd : crlf "Root:\n    A:" = "Root:\r\n    A:" := by decide
  have hcs : "Label:\r\n    text: '1'\r\n" = crlf "Label:\n    text: '1'\n" := by decide
  have hsame := (edits_ignore_returns hd hs (.inr hcs)).1 1 5 4
  rw [hcd] at hsame
  exact ⟨hd, hs, by decide, hsame⟩

end KvMarkup.Edit

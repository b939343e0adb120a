import Mathlib.Data.List.Forall2
import Mathlib.Order.Bounds.Basic
import KvMarkup.Edit.Insert
import KvMarkup.Proofs.Edit.Indent
import KvMarkup.Proofs.Edit.Splice

/-!
# Inserting a snippet

An insertion puts one block in front of a line of the text and changes no other line; the block
depends on the snippet and the column alone:

    lines (insert s snippet line column width).text =
      splice (lines s) (min (max 0 line) count) (anchoredSnippet snippet (roundIndent column width))

The block has a line for each line with content of the snippet without its end mark, in order, with
the same text and at the same distance from the first one (`anchor_indented`), and the column is a
whole number of indent levels (`isGreatest_roundIndent`).

Since a block does not depend on the lines around it, two insertions can be made in either order
(`insert_comm`).
-/

namespace KvMarkup.Edit

open KvMarkup.Text

/-! ## The column -/

/-- The column is rounded down to a whole indent level. -/
theorem isGreatest_roundIndent {width : Int} (hw : 1 ≤ width) (column : Int) :
    IsGreatest {k : Int | width ∣ k ∧ k ≤ max 0 column} (roundIndent column width) := by
  have hfdiv : column.fdiv width = column / width := Int.fdiv_eq_ediv_of_nonneg _ (by omega)
  have hle : column / width * width ≤ column := Int.ediv_mul_le _ (by omega)
  rw [roundIndent, hfdiv]
  refine ⟨⟨?_, by omega⟩, ?_⟩
  · rcases Int.le_total 0 (column / width * width) with h | h
    · rw [Int.max_eq_right h]
      exact Int.dvd_mul_left _ _
    · rw [Int.max_eq_left h]
      exact Int.dvd_zero _
  · rintro k ⟨⟨m, rfl⟩, hk⟩
    rcases Int.le_total 0 column with h | h
    · rw [Int.max_eq_right h] at hk
      have hm : m ≤ column / width := by
        rw [Int.le_ediv_iff_mul_le (by omega), Int.mul_comm]
        exact hk
      have hmul := Int.mul_le_mul_of_nonneg_right hm (show 0 ≤ width by omega)
      rw [Int.mul_comm m] at hmul
      omega
    · omega

/-! ## The snippet -/

/-- A snippet and what it is without its end mark.  The mark counts at the end of the snippet, with
white space behind it or not, and is taken off once together with that white space. -/
inductive Unmarked : List Char → List Char → Prop where
  | marked {body space : List Char} (h : isBlank space = true) :
      Unmarked (body ++ endMark ++ space) body
  | plain {snippet : List Char}
      (h : ∀ body space, isBlank space = true → snippet ≠ body ++ endMark ++ space) :
      Unmarked snippet snippet

theorem trimEnd_marked (body : List Char) {space : List Char} (h : isBlank space = true) :
    trimEnd (body ++ endMark ++ space) = body ++ endMark := by
  rw [trimEnd_append_of_blank _ h, trimEnd_eq_rdropWhile, List.rdropWhile_eq_self_iff]
  intro hne
  rw [List.getLast_append_of_ne_nil _ (by simp [endMark])]
  decide

theorem unmarked_dropEndMark (snippet : List Char) : Unmarked snippet (dropEndMark snippet) := by
  by_cases h : endMark <:+ trimEnd snippet
  · obtain ⟨body, hbody⟩ := h
    obtain ⟨space, hspace, hsplit⟩ := exists_eq_trimEnd_append snippet
    rw [dropEndMark_of_mark hbody.symm, hsplit, ← hbody]
    exact .marked hspace
  · rw [dropEndMark_of_no_mark h]
    refine .plain ?_
    rintro body space hspace rfl
    rw [trimEnd_marked body hspace] at h
    exact h (List.suffix_append body endMark)

/-- There is one way to take the end mark off. -/
theorem unmarked_iff {snippet body : List Char} :
    Unmarked snippet body ↔ body = dropEndMark snippet := by
  constructor
  · intro h
    cases h with
    | marked hspace => exact (dropEndMark_of_mark (trimEnd_marked body hspace)).symm
    | plain hplain =>
      refine (dropEndMark_of_no_mark ?_).symm
      rintro ⟨text, htext⟩
      obtain ⟨space, hspace, hsplit⟩ := exists_eq_trimEnd_append snippet
      exact hplain text space hspace (by rw [htext, ← hsplit])
  · rintro rfl
    exact unmarked_dropEndMark snippet

/-- A line of a snippet and what it is as a line of a block, where `base` is the indent of the first
line with content and `column` the one that the block is put at. -/
structure Indented (base : Nat) (column : Int) (l b : Line) : Prop where
  trim_eq : trim b = trim l
  indent_eq : (leadingBlanks b : Int) = column + max 0 ((leadingBlanks l : Int) - base)
  trimEnd_eq : trimEnd b = b

theorem trimEnd_blanks_trim (n : Int) {l : Line} (h : isBlank l = false) :
    trimEnd (blanks n ++ trim l) = blanks n ++ trim l := by
  rw [trimEnd_eq_rdropWhile, List.rdropWhile_eq_self_iff]
  intro hne
  have htrim : trim l ≠ [] := by
    rw [Ne, ← isBlank_iff_trim, h]
    exact Bool.false_ne_true
  rw [List.getLast_append_of_ne_nil _ htrim,
    (tight_trim l).2 _ (List.getLast_mem_getLast? htrim)]
  exact Bool.false_ne_true

/-- The block of a snippet has its lines with content, in order, each at its distance from the first
one. -/
theorem anchor_indented (ls : List Line) {column : Int} (hc : 0 ≤ column) :
    List.Forall₂ (Indented (leadingBlanks ((content ls).headD [])) column) (content ls)
      (anchor ls column) := by
  have hbase : firstIndent ls = leadingBlanks ((content ls).headD []) := by
    rw [firstIndent_eq]
    cases content ls <;> rfl
  rw [anchor_eq_map, hbase, List.forall₂_map_right_iff, List.forall₂_same]
  intro l hl
  refine ⟨by rw [trim_blanks_append, trim_trim], ?_, trimEnd_blanks_trim _ (mem_content.mp hl).2⟩
  rw [leadingBlanks_blanks_tight _ (tight_trim l), relativeIndent]
  omega

/-! ## The text -/

/-- An insertion puts the block of the snippet in and changes no other line. -/
theorem lines_insert (source snippet : String) (line column width : Int) :
    lines (insert source snippet line column width).text =
      splice (lines source) (min (max 0 line) (lines source).length)
        (anchoredSnippet snippet (roundIndent column width)) := by
  unfold insert
  simp only
  split
  · next h => rw [List.isEmpty_iff.mp h, splice_nil]
  · next h =>
    exact lines_ofLines_splice _ _ (mt List.isEmpty_iff.mpr h) (noBreaks_anchoredSnippet _ _)

/-- An insertion right after the lines `xs` leaves them and the lines after them as they are. -/
theorem lines_insert_append {source : String} {xs ys : List Line} (h : lines source = xs ++ ys)
    {line : Int} (hline : line = xs.length) (snippet : String) (column width : Int) :
    lines (insert source snippet line column width).text =
      xs ++ anchoredSnippet snippet (roundIndent column width) ++ ys := by
  have hposition : min (max 0 line) ((lines source).length : Int) = xs.length := by
    rw [h, List.length_append]
    omega
  rw [lines_insert, hposition, h, splice_append]

/-- A character that is not white space stays in the text, unless it is one of the end mark. -/
theorem mem_insert {snippet : String} {c : Char} (hc : c ∈ snippet.toList)
    (hspace : isSpace c = false) (hmark : c ∉ endMark) (source : String) (line column width : Int) :
    c ∈ (insert source snippet line column width).text.toList := by
  have hbreak : c ≠ '\n' := by
    rintro rfl
    cases hspace
  have hbody : c ∈ dropEndMark snippet.toList := by
    by_cases h : endMark <:+ trimEnd snippet.toList
    · obtain ⟨body, hbody⟩ := h
      obtain ⟨space, hblank, hsplit⟩ := exists_eq_trimEnd_append snippet.toList
      rw [dropEndMark_of_mark hbody.symm]
      rw [hsplit, ← hbody, List.mem_append, List.mem_append, or_iff_left hmark] at hc
      refine hc.resolve_right fun hc => ?_
      rw [List.all_eq_true.mp hblank c hc] at hspace
      cases hspace
    · rwa [dropEndMark_of_no_mark h]
  obtain ⟨l, hl, hcl⟩ := (exists_mem_splitOn_iff hbreak _).mpr hbody
  have hcontent : l ∈ content ((dropEndMark snippet.toList).splitOn '\n') := by
    refine mem_content.mpr ⟨hl, ?_⟩
    rw [isBlank, List.all_eq_false]
    exact ⟨c, hcl, by simp [hspace]⟩
  obtain ⟨k, hk⟩ : ∃ k, blanks k ++ trim l ∈ anchoredSnippet snippet (roundIndent column width) := by
    rw [anchoredSnippet, anchor_eq_map]
    exact ⟨_, List.mem_map.mpr ⟨l, hcontent, rfl⟩⟩
  rw [← exists_mem_splitOn_iff hbreak, ← lines, lines_insert]
  exact ⟨_, (spliced_splice ..).perm.mem_iff.mpr (List.mem_append_left _ hk),
    List.mem_append_right _ (mem_trim hcl hspace)⟩

/-- With a width there is an insertion. -/
theorem insert?_eq_ok {width : Int} (hw : width ≠ 0) (source snippet : String) (line column : Int) :
    insert? source snippet line column width = .ok (insert source snippet line column width) := by
  rw [insert?, if_neg (by simpa using hw)]

/-- **An insertion puts one block in and keeps its nesting.**  The lines of the text stay as they are
and in order, with one block put in front of the line, or of the nearest one that there is.  The
block has a line for each line with content of the snippet without its end mark: the same text, with
nothing behind it, and its distance from the first one, which stands at the largest whole number of
indent levels up to the column.  A snippet without content changes nothing. -/
theorem insert_exact {width : Int} (hw : 1 ≤ width) (source snippet : String) (line column : Int) :
    ∃ edited body indent block,
      insert? source snippet line column width = .ok edited ∧
      Unmarked snippet.toList body ∧
      IsGreatest {k : Int | width ∣ k ∧ k ≤ max 0 column} indent ∧
      List.Forall₂ (Indented (leadingBlanks ((content (body.splitOn '\n')).headD [])) indent)
        (content (body.splitOn '\n')) block ∧
      lines edited.text =
        (lines source).take (min (max 0 line) (lines source).length).toNat ++ block ++
          (lines source).drop (min (max 0 line) (lines source).length).toNat ∧
      (lines edited.text).length =
        (lines source).length + (content (body.splitOn '\n')).length ∧
      (content (body.splitOn '\n') = [] → edited.text = source) := by
  have hcolumn : 0 ≤ roundIndent column width := Int.le_max_left _ _
  have hblock := anchor_indented ((dropEndMark snippet.toList).splitOn '\n') hcolumn
  have hlines := lines_insert source snippet line column width
  have hplace : place (lines source).length (min (max 0 line) (lines source).length) =
      (min (max 0 line) (lines source).length).toNat := by
    unfold place
    rw [if_neg (by omega)]
    omega
  refine ⟨_, _, _, _, insert?_eq_ok (by omega) _ _ _ _, unmarked_dropEndMark _,
    isGreatest_roundIndent hw column, hblock, ?_, ?_, fun hnil => ?_⟩
  · rw [hlines, splice, hplace, anchoredSnippet]
  · rw [hlines, length_splice, anchoredSnippet, hblock.length_eq]
  · rw [← lines_inj, hlines, anchoredSnippet, anchor_eq_map, hnil, List.map_nil, splice_nil]

/-- A snippet with a line to the left of its first one, white space at the ends of lines and an end
mark on a line of its own. -/
def ragged : String := "\n  Label:\n      text: 'x'  \n\tb: 2\n  $0 \n"

theorem insert_exact_ragged :
    (1 : Int) ≤ 4 ∧ ∃ block,
      lines (insert "Root:\n    A:" ragged 1 7 4).text =
        ["Root:".toList] ++ block ++ ["    A:".toList] ∧
      List.Forall₂ (Indented 2 4) ["  Label:".toList, "      text: 'x'  ".toList, "\tb: 2".toList]
        block := by
  have hw : (1 : Int) ≤ 4 := by decide
  obtain ⟨edited, body, indent, block, hedited, hbody, hindent, hblock, hlines, -, -⟩ :=
    insert_exact hw "Root:\n    A:" ragged 1 7
  obtain rfl := Except.ok.inj ((insert?_eq_ok (by decide) _ _ _ _).symm.trans hedited)
  obtain rfl := unmarked_iff.mp hbody
  obtain rfl : roundIndent 7 4 = indent := (isGreatest_roundIndent hw 7).unique hindent
  have hcontent : content ((dropEndMark ragged.toList).splitOn '\n') =
      ["  Label:".toList, "      text: 'x'  ".toList, "\tb: 2".toList] := by decide
  rw [hcontent] at hblock
  exact ⟨hw, block, hlines, hblock⟩

/-- Lines split at two places in order. -/
theorem exists_split_at {ls : List Line} {i j : Int} (h0 : 0 ≤ i) (hle : i ≤ j)
    (hj : j ≤ ls.length) :
    ∃ xs ys zs, ls = xs ++ ys ++ zs ∧ i = xs.length ∧ j = (xs ++ ys).length := by
  have htake : (ls.take j.toNat).take i.toNat ++ (ls.take j.toNat).drop i.toNat =
      ls.take j.toNat := List.take_append_drop _ _
  refine ⟨(ls.take j.toNat).take i.toNat, (ls.take j.toNat).drop i.toNat, ls.drop j.toNat, ?_, ?_, ?_⟩
  · rw [htake, List.take_append_drop]
  · rw [List.length_take, List.length_take]
    omega
  · rw [htake, List.length_take]
    omega

/-- **Insertions at different places can be made in either order.**  The later place counts the lines
that the first insertion put in.  At one and the same place the one that is named first comes
first. -/
theorem insert_comm {width : Int} (hw : 1 ≤ width) (source first second : String)
    (column column' : Int) {line line' : Int} (h0 : 0 ≤ line) (hle : line ≤ line')
    (hcount : line' ≤ (lines source).length) :
    ∃ a b ab ba,
      insert? source first line column width = .ok a ∧
      insert? a.text second (line' + ((lines a.text).length - (lines source).length)) column' width =
        .ok ab ∧
      insert? source second line' column' width = .ok b ∧
      insert? b.text first line column width = .ok ba ∧
      ab.text = ba.text := by
  have hne : width ≠ 0 := by omega
  refine ⟨_, _, _, _, insert?_eq_ok hne _ _ _ _, insert?_eq_ok hne _ _ _ _, insert?_eq_ok hne _ _ _ _,
    insert?_eq_ok hne _ _ _ _, ?_⟩
  -- the lines above the first place, between the two and below the second one
  obtain ⟨xs, ys, zs, hsplit, hxs, hys⟩ := exists_split_at h0 hle hcount
  have ha := lines_insert_append (hsplit.trans (List.append_assoc xs ys zs)) hxs first column width
  have hb := lines_insert_append hsplit hys second column' width
  have hshift : line' + ((lines (insert source first line column width).text).length -
      (lines source).length : Int) =
        (xs ++ anchoredSnippet first (roundIndent column width) ++ ys).length := by
    rw [ha, hsplit, hys]
    simp only [List.length_append]
    omega
  rw [← List.append_assoc] at ha
  have hab := lines_insert_append ha hshift second column' width
  rw [List.append_assoc, List.append_assoc] at hb
  have hba := lines_insert_append hb hxs first column width
  rw [← lines_inj, hab, hba]
  simp only [List.append_assoc]

/-- Two snippets at the end of a text without a final line feed. -/
theorem insert_comm_end :
    (insert (insert "Root:\n    A:" "B:\n    c: 1" 2 4 4).text "D:$0" 4 5 4).text =
      (insert (insert "Root:\n    A:" "D:$0" 2 5 4).text "B:\n    c: 1" 2 4 4).text := by
  have hw : (1 : Int) ≤ 4 := by decide
  have hcount : (2 : Int) ≤ (lines "Root:\n    A:").length := by decide
  obtain ⟨a, b, ab, ba, ha, hab, hb, hba, hsame⟩ :=
    insert_comm hw "Root:\n    A:" "B:\n    c: 1" "D:$0" 4 5 (by decide) (Int.le_refl 2) hcount
  have hok := insert?_eq_ok (show (4 : Int) ≠ 0 by decide)
  obtain rfl := Except.ok.inj ((hok _ _ _ _).symm.trans ha)
  obtain rfl := Except.ok.inj ((hok _ _ _ _).symm.trans hb)
  obtain rfl := Except.ok.inj ((hok _ _ _ _).symm.trans hab)
  obtain rfl := Except.ok.inj ((hok _ _ _ _).symm.trans hba)
  have hshift : (2 : Int) + ((lines (insert "Root:\n    A:" "B:\n    c: 1" 2 4 4).text).length -
      (lines "Root:\n    A:").length) = 4 := by decide
  rw [hshift] at hsame
  exact hsame

end KvMarkup.Edit

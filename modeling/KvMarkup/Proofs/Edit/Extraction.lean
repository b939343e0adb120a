import KvMarkup.Proofs.Edit.Block

/-!
# Extracting widget blocks

A header is white space, a name and a colon (`HeaderOf`).  The block of a header is said where the
text splits around it: the lines `inner` follow the header and `under` follow the block.

    lines text = above ++ header :: (inner ++ under)

The block ends with content, has the lines with content among `inner`, all of them indented further
than the header, and goes as far as it can: what has content first under it is not indented further
(`Extracted`).  There is one such split for each header and extraction finds it:

    blockAt? text line = some b ↔ ∃ above header inner under, … ∧ Extracted above header inner under b

So what is extracted from the code of a block is that block (`extraction_exact`), and the blocks of
two headers are disjoint or one is in the other (`blocks_disjoint_or_nested`).
-/

namespace KvMarkup.Edit

open KvMarkup.Text

/-! ## Headers -/

/-- White space, the name, a colon and whatever is behind it; the name is a capital letter with word
characters after it. -/
inductive HeaderOf : Line → Line → Prop where
  | intro {margin word rest : Line} {first : Char} (margin_blank : isBlank margin = true)
      (capital : isCapital first = true) (word_chars : ∀ c ∈ word, isWord c = true) :
      HeaderOf (first :: word) (margin ++ first :: word ++ ':' :: rest)

theorem isSpace_of_isCapital {c : Char} (h : isCapital c = true) : isSpace c = false := by
  simp only [isCapital, Bool.and_eq_true, decide_eq_true_eq, Char.le_def, UInt32.le_iff_toNat_le]
    at h
  obtain ⟨hlo, hhi⟩ := h
  have h1 : 0x41 ≤ c.toNat := hlo
  have h2 : c.toNat ≤ 0x5A := hhi
  simp [isSpace, spaceRanges, CodeRanges.contains]
  omega

theorem isWord_colon : isWord ':' = false := by decide +kernel

theorem headerOf_of_headerName? {l name : Line} (h : headerName? l = some name) :
    HeaderOf name l := by
  have hl : l = l.takeWhile isSpace ++ trimStart l := List.takeWhile_append_dropWhile.symm
  unfold headerName? at h
  split at h
  · next first rest hfirst =>
    split at h
    · next hcond =>
      simp only [Bool.and_eq_true, beq_iff_eq] at hcond
      obtain ⟨hcapital, hcolon⟩ := hcond
      obtain ⟨tail, htail⟩ := List.head?_eq_some_iff.mp hcolon
      have hrest : rest = rest.takeWhile isWord ++ ':' :: tail := by
        rw [← htail, List.takeWhile_append_dropWhile]
      obtain rfl := Option.some.inj h
      rw [hl, hfirst, hrest, ← List.cons_append, ← List.append_assoc, ← hrest]
      exact .intro List.all_takeWhile hcapital fun c hc => List.mem_takeWhile_imp hc
    · cases h
  · cases h

theorem HeaderOf.headerName?_eq {l name : Line} (h : HeaderOf name l) :
    headerName? l = some name := by
  obtain ⟨hmargin, hcapital, hword⟩ := h
  rename_i margin word rest first
  have htrim : trimStart (margin ++ first :: word ++ ':' :: rest) =
      first :: (word ++ ':' :: rest) := by
    rw [trimStart, List.append_assoc, List.dropWhile_append_of_pos (List.all_eq_true.mp hmargin)]
    exact List.dropWhile_cons_of_neg (by simp [isSpace_of_isCapital hcapital])
  have htake : (word ++ ':' :: rest).takeWhile isWord = word := by
    rw [List.takeWhile_append_of_pos hword, List.takeWhile_cons_of_neg (by simp [isWord_colon]),
      List.append_nil]
  have hdrop : (word ++ ':' :: rest).dropWhile isWord = ':' :: rest := by
    rw [List.dropWhile_append_of_pos hword, List.dropWhile_cons_of_neg (by simp [isWord_colon])]
  rw [headerName?, htrim]
  simp [htake, hdrop, hcapital]

theorem HeaderOf.not_blank {l name : Line} (h : HeaderOf name l) : isBlank l = false :=
  not_blank_of_headerName? h.headerName?_eq

/-! ## Blocks -/

/-- The block `b` of a header with the lines `above` over it: the lines `inner` come down to the end
of the block and `under` come after it. -/
structure Extracted (above : List Line) (header : Line) (inner under : List Line) (b : Block) :
    Prop where
  named : HeaderOf b.name.toList header
  startLine_eq : b.startLine = above.length
  endLine_eq : b.endLine = above.length + inner.length
  ends_with_content : ∀ l ∈ (header :: inner).getLast?, isBlank l = false
  code_eq : b.code = ofLines (header :: content inner)
  lineCount_eq : b.lineCount = (header :: content inner).length
  deeper : ∀ l ∈ content inner, leadingSpace header < leadingSpace l
  maximal : ∀ l ∈ (content under).head?, leadingSpace l ≤ leadingSpace header

/-- The lines under a header split at the end of its block. -/
theorem exists_end_of_block (indent : Nat) (ls : List Line) :
    ∃ inner under, ls = inner ++ under ∧ content inner = below indent ls ∧
      inner.length = span (owned indent ls) ∧ Deeper indent inner ∧
      (∀ l ∈ inner.getLast?, isBlank l = false) ∧
      ∀ l ∈ (content under).head?, leadingSpace l ≤ indent := by
  have hinit := List.rdropWhile_prefix isBlank (owned indent ls)
  obtain ⟨under, hunder⟩ := hinit.trans (List.takeWhile_prefix _)
  have hcontent : content ((owned indent ls).rdropWhile isBlank) = below indent ls :=
    content_rdropWhile _
  have hdeep : Deeper indent ((owned indent ls).rdropWhile isBlank) :=
    deeper_iff.mpr fun l hl => List.mem_takeWhile_imp (hinit.subset hl)
  refine ⟨_, under, hunder.symm, hcontent, rfl, hdeep, fun l hl => ?_, ?_⟩
  · obtain ⟨hne, rfl⟩ := List.mem_getLast?_eq_getLast hl
    simpa using List.rdropWhile_last_not isBlank _ hne
  · -- what the header owns is content of the block already
    have hsplit := below_append_of_deeper hdeep under
    rw [hunder, hcontent] at hsplit
    exact below_eq_nil_iff.mp (List.self_eq_append_right.mp hsplit)

section
variable {text : String} {above inner under : List Line} {header name : Line} {b : Block}

theorem extracted_blockOf (hn : HeaderOf name header) (above ls : List Line) :
    ∃ inner under, ls = inner ++ under ∧
      Extracted above header inner under (blockOf above.length name header ls) := by
  obtain ⟨inner, under, hsplit, hcontent, hlen, hdeep, hlast, hmax⟩ :=
    exists_end_of_block (leadingSpace header) ls
  refine ⟨inner, under, hsplit, ?_, rfl, ?_, fun l hl => ?_, ?_, ?_, hdeep, hmax⟩
  · rw [blockOf, String.toList_ofList]
    exact hn
  · rw [blockOf, hlen]
  · cases inner with
    | nil =>
      obtain rfl : header = l := by simpa using hl
      exact hn.not_blank
    | cons first rest => exact hlast l (by simpa using hl)
  · rw [blockOf, hcontent]
  · rw [blockOf, hcontent, List.length_cons]

/-- A block that is extracted is the one that its header has. -/
theorem Extracted.eq_blockOf (h : Extracted above header inner under b) :
    b = blockOf above.length b.name.toList header (inner ++ under) := by
  obtain ⟨-, hstart, hend, hlast, hcode, hcount, hdeep, hmax⟩ := h
  have hunder : below (leadingSpace header) under = [] := below_eq_nil_iff.mpr hmax
  have hbelow : below (leadingSpace header) (inner ++ under) = content inner := by
    rw [below_append_of_deeper hdeep, hunder, List.append_nil]
  have hspan : span (owned (leadingSpace header) (inner ++ under)) = inner.length := by
    rw [owned_append_of_deeper hdeep, span_append_of_blank hunder, span_eq_length]
    intro l hl
    cases inner with
    | nil => cases hl
    | cons first rest => exact hlast l (by simpa using hl)
  obtain ⟨name, code, startLine, endLine, lineCount⟩ := b
  simp only at hstart hend hcode hcount
  rw [blockOf, hbelow, hspan, hstart, hend, hcode, hcount, String.ofList_toList, List.length_cons]

theorem blockAt?_eq_some_iff {line : Int} : blockAt? text line = some b ↔
    ∃ above header inner under, lines text = above ++ header :: (inner ++ under) ∧
      line = above.length ∧ Extracted above header inner under b := by
  constructor
  · intro h
    obtain ⟨above, header, name, ls, hsplit, hline, hn, rfl⟩ := exists_split_of_blockAt? h
    obtain ⟨inner, under, rfl, hb⟩ :=
      extracted_blockOf (headerOf_of_headerName? hn) above ls
    exact ⟨above, header, inner, under, hsplit, hline, hb⟩
  · rintro ⟨above, header, inner, under, hsplit, rfl, hb⟩
    rw [blockAt?_eq hsplit hb.named.headerName?_eq, ← hb.eq_blockOf]

theorem Extracted.lines_code (h : Extracted above header inner under b)
    (hsplit : lines text = above ++ header :: (inner ++ under)) :
    lines b.code = header :: content inner := by
  rw [h.code_eq]
  refine lines_ofLines (List.cons_ne_nil _ _) ((noBreaks_lines text).mono ?_)
  intro l hl
  rw [hsplit]
  rcases List.mem_cons.mp hl with rfl | hl
  · simp
  · simp [(mem_content.mp hl).1]

/-- The code of a block is the block of its header with nothing over or under it. -/
theorem Extracted.extracted_code (h : Extracted above header inner under b) :
    Extracted [] header (content inner) []
      { b with startLine := 0, endLine := b.lineCount - 1 } := by
  have hself : content (content inner) = content inner :=
    content_eq_self fun l hl => (mem_content.mp hl).2
  refine ⟨h.named, rfl, ?_, fun l hl => ?_, ?_, ?_, ?_, ?_⟩
  · simp [h.lineCount_eq]
  · rcases List.mem_cons.mp (List.mem_of_getLast? hl) with rfl | hl
    · exact h.named.not_blank
    · exact (mem_content.mp hl).2
  · rw [hself, h.code_eq]
  · rw [hself, h.lineCount_eq]
  · rw [hself]
    exact h.deeper
  · simp

end

/-- **Extraction is exact.**  There is a block on a line exactly when the line is in the text and is
a header.  It is the header with the lines with content after it, which are indented further, down
to the last one of them, and what has content next is not indented further; no other block fits the
line.  Extracting from the code of a block gives the block again. -/
theorem extraction_exact (text : String) (line : Int) :
    ((∃ b, blockAt? text line = some b) ↔
      0 ≤ line ∧ ∃ header ∈ (lines text)[line.toNat]?, ∃ name, HeaderOf name header) ∧
    (∀ b, blockAt? text line = some b ↔
      ∃ above header inner under, lines text = above ++ header :: (inner ++ under) ∧
        line = above.length ∧ Extracted above header inner under b) ∧
    ∀ b, blockAt? text line = some b →
      blockAt? b.code 0 = some { b with startLine := 0, endLine := b.lineCount - 1 } := by
  refine ⟨⟨?_, ?_⟩, fun b => blockAt?_eq_some_iff, fun b hb => ?_⟩
  · rintro ⟨b, hb⟩
    obtain ⟨above, header, name, under, hsplit, rfl, hn, -⟩ := exists_split_of_blockAt? hb
    refine ⟨Int.natCast_nonneg _, header, ?_, name, headerOf_of_headerName? hn⟩
    simp [hsplit]
  · rintro ⟨hline, header, hrow, name, hn⟩
    obtain ⟨hsplit, hlen⟩ := eq_take_cons_drop hrow
    have hb := blockAt?_eq hsplit hn.headerName?_eq
    rw [hlen, Int.toNat_of_nonneg hline] at hb
    exact ⟨_, hb⟩
  · obtain ⟨above, header, inner, under, hsplit, -, h⟩ := blockAt?_eq_some_iff.mp hb
    exact blockAt?_eq_some_iff.mpr
      ⟨[], header, content inner, [], by simp [h.lines_code hsplit], rfl, h.extracted_code⟩

example : blockAt? "Box:\n    A:\n\n    B:\n\nC:" 0 =
    some ⟨"Box", "Box:\n    A:\n    B:", 0, 3, 3⟩ := by decide

/-! ## Two blocks of a text -/

/-- **Blocks form a forest.**  Of the blocks of two headers either the first one ends above the
second header, or the second block ends no later than the first one and its lines stand together in
the code of the first one. -/
theorem blocks_disjoint_or_nested {text : String} {i j : Int} (hij : i < j) {b c : Block}
    (hb : blockAt? text i = some b) (hc : blockAt? text j = some c) :
    b.endLine < j ∨ c.endLine ≤ b.endLine ∧ lines c.code <:+: lines b.code := by
  obtain ⟨above, header, name, under, hsplit, rfl, hn, rfl⟩ := exists_split_of_blockAt? hb
  obtain ⟨above', header', name', under', hsplit', rfl, hn', rfl⟩ := exists_split_of_blockAt? hc
  obtain ⟨mid, rfl, rfl⟩ := exists_between (hsplit.symm.trans hsplit') (by omega)
  have hrow : (above ++ header :: mid).length = above.length + 1 + mid.length := by
    rw [List.length_append, List.length_cons]
    omega
  have hblank := not_blank_of_headerName? hn'
  rw [lines_code_blockOf hsplit, lines_code_blockOf hsplit', blockOf, blockOf]
  simp only [hrow]
  by_cases hd : Deeper (leadingSpace header) (mid ++ [header'])
  · -- the first header reads over the second one, and at least as far as that
    have hlt : leadingSpace header < leadingSpace header' :=
      hd header' (mem_content.mpr ⟨by simp, hblank⟩)
    refine .inr ⟨?_, ?_⟩
    · have hspan := span_le_of_prefix (prefix_owned (Nat.le_of_lt hlt) under')
      rw [span_owned_through hblank hd]
      omega
    · obtain ⟨rest, hrest⟩ := prefix_below (Nat.le_of_lt hlt) under'
      rw [below_through hblank hd, ← hrest]
      exact ⟨header :: content mid, rest, by simp⟩
  · have hspan : span (owned (leadingSpace header) (mid ++ header' :: under')) ≤ mid.length :=
      (span_owned_le_iff hblank).mpr hd
    exact .inl (by omega)

/-- Two widgets, the second one indented by three blanks and its property by white space of two
kinds, with empty lines between them and a third widget indented less than the second. -/
def irregular : String := "Box:\n   A:\n\n\t \t b: 1\n  C:\n\nD:"

theorem blocks_nested_irregular :
    ∃ b c, blockAt? irregular 0 = some b ∧ blockAt? irregular 1 = some c ∧
      c.endLine ≤ b.endLine ∧ lines c.code <:+: lines b.code := by
  have hb : blockAt? irregular 0 =
      some ⟨"Box", "Box:\n   A:\n\t \t b: 1\n  C:", 0, 4, 4⟩ := by decide
  have hc : blockAt? irregular 1 = some ⟨"A", "   A:\n\t \t b: 1", 1, 3, 2⟩ := by decide
  rcases blocks_disjoint_or_nested (by decide) hb hc with h | h
  · exact absurd h (by decide)
  · exact ⟨_, _, hb, hc, h⟩

end KvMarkup.Edit

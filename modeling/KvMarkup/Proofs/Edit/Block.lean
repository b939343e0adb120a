import KvMarkup.Edit.Block
import KvMarkup.Proofs.Edit.Splice

/-!
# The block of a header, line by line

The lines below a header of a given indent are read up to the first line with content that is not
indented further (`owned`).  The block has the lines with content among them (`below`), and it ends
with the last of these, `span` lines further down:

    lines text = above ++ header :: under → headerName? header = some name →
      blockAt? text above.length = some (blockOf above.length name header under)       (blockAt?_eq)
    Deeper i xs   → below i (xs ++ ys) = content xs ++ below i ys            (below_append_of_deeper)
    ¬ Deeper i xs → below i (xs ++ ys) = below i xs                      (below_append_of_not_deeper)

The last two say how far a change of the lines can be seen from a header.  For a line with content
they say whether the block ends above it (`span_owned_le_iff`).
-/

namespace KvMarkup.Edit

open KvMarkup.Text

/-- Every line with content is indented further than `indent`. -/
def Deeper (indent : Nat) (ls : List Line) : Prop := ∀ l ∈ content ls, indent < leadingSpace l

instance (indent : Nat) (ls : List Line) : Decidable (Deeper indent ls) :=
  inferInstanceAs (Decidable (∀ l ∈ content ls, indent < leadingSpace l))

/-- A line that does not end the block of a header. -/
def continues (indent : Nat) (l : Line) : Bool := isBlank l || indent < leadingSpace l

/-- The lines up to the first one with content that is not indented further than `indent`. -/
def owned (indent : Nat) (ls : List Line) : List Line := ls.takeWhile (continues indent)

/-- The lines below a header that belong to its block. -/
def below (indent : Nat) (ls : List Line) : List Line := content (owned indent ls)

/-- The number of lines up to the last one with content. -/
def span (ls : List Line) : Nat := (ls.rdropWhile isBlank).length

/-! ## Lines that are indented further -/

theorem deeper_append {indent : Nat} {xs ys : List Line} :
    Deeper indent (xs ++ ys) ↔ Deeper indent xs ∧ Deeper indent ys := by
  simp only [Deeper, content_append, List.mem_append, or_imp, forall_and]

theorem Deeper.mono {indent : Nat} {xs ys : List Line} (h : Deeper indent xs) (hs : ys ⊆ xs) :
    Deeper indent ys := by
  intro l hl
  obtain ⟨hm, hb⟩ := mem_content.mp hl
  exact h l (mem_content.mpr ⟨hs hm, hb⟩)

theorem continues_eq_false_iff {indent : Nat} {l : Line} :
    continues indent l = false ↔ isBlank l = false ∧ leadingSpace l ≤ indent := by
  simp [continues]

theorem deeper_iff {indent : Nat} {ls : List Line} :
    Deeper indent ls ↔ ∀ l ∈ ls, continues indent l = true := by
  constructor
  · intro h l hl
    by_cases hb : isBlank l = true
    · simp [continues, hb]
    · simp [continues, h l (mem_content.mpr ⟨hl, by simpa using hb⟩)]
  · intro h l hl
    obtain ⟨hm, hb⟩ := mem_content.mp hl
    simpa [continues, hb] using h l hm

theorem owned_append_of_deeper {indent : Nat} {xs : List Line} (h : Deeper indent xs)
    (ys : List Line) : owned indent (xs ++ ys) = xs ++ owned indent ys :=
  List.takeWhile_append_of_pos (deeper_iff.mp h)

/-- A line with content that is not indented further ends what is owned. -/
theorem exists_owned_of_not_deeper {indent : Nat} {xs : List Line} (h : ¬ Deeper indent xs) :
    ∃ x rest, continues indent x = false ∧ xs = owned indent xs ++ x :: rest := by
  have hsplit : owned indent xs ++ xs.dropWhile (continues indent) = xs :=
    List.takeWhile_append_dropWhile
  cases hd : xs.dropWhile (continues indent) with
  | nil =>
    rw [hd, List.append_nil] at hsplit
    rw [← hsplit, deeper_iff] at h
    exact absurd (fun l hl => List.mem_takeWhile_imp hl) h
  | cons x rest =>
    have hx := List.head?_dropWhile_not (continues indent) xs
    rw [hd] at hx hsplit
    exact ⟨x, rest, hx, hsplit.symm⟩

theorem owned_append_of_not_deeper {indent : Nat} {xs : List Line} (h : ¬ Deeper indent xs)
    (ys : List Line) : owned indent (xs ++ ys) = owned indent xs := by
  obtain ⟨x, rest, hx, hxs⟩ := exists_owned_of_not_deeper h
  have hall : ∀ l ∈ owned indent xs, continues indent l = true :=
    fun l hl => List.mem_takeWhile_imp hl
  have hstop : owned indent (owned indent xs ++ x :: (rest ++ ys)) = owned indent xs := by
    rw [owned, List.takeWhile_append_of_pos hall, List.takeWhile_cons_of_neg (by simp [hx]),
      List.append_nil]
  conv => lhs; rw [hxs, List.append_assoc, List.cons_append]
  exact hstop

theorem below_append_of_deeper {indent : Nat} {xs : List Line} (h : Deeper indent xs)
    (ys : List Line) : below indent (xs ++ ys) = content xs ++ below indent ys := by
  rw [below, owned_append_of_deeper h, content_append, below]

theorem below_append_of_not_deeper {indent : Nat} {xs : List Line} (h : ¬ Deeper indent xs)
    (ys : List Line) : below indent (xs ++ ys) = below indent xs := by
  rw [below, owned_append_of_not_deeper h, below]

theorem below_cons_of_blank {l : Line} (hb : isBlank l = true) (indent : Nat) (ls : List Line) :
    below indent (l :: ls) = below indent ls := by
  rw [below, owned, List.takeWhile_cons_of_pos (by simp [continues, hb]), content_cons_of_blank hb,
    below, owned]

theorem below_cons_of_not_blank {l : Line} (hb : isBlank l = false) (indent : Nat)
    (ls : List Line) :
    below indent (l :: ls) = if indent < leadingSpace l then l :: below indent ls else [] := by
  split
  · next h =>
    rw [below, owned, List.takeWhile_cons_of_pos (by simp [continues, h]),
      content_cons_of_not_blank hb, below, owned]
  · next h => rw [below, owned, List.takeWhile_cons_of_neg (by simp [continues, hb, h]), content_nil]

/-- A header owns nothing of some lines when the first one with content is not indented further. -/
theorem below_eq_nil_iff {indent : Nat} {ls : List Line} :
    below indent ls = [] ↔ ∀ l ∈ (content ls).head?, leadingSpace l ≤ indent := by
  induction ls with
  | nil => simp [below, owned]
  | cons l ls ih =>
    by_cases hb : isBlank l = true
    · rw [below_cons_of_blank hb, content_cons_of_blank hb, ih]
    · have hb' : isBlank l = false := by simpa using hb
      rw [below_cons_of_not_blank hb', content_cons_of_not_blank hb']
      simp

/-- A header that is indented further owns nothing where one that is indented less owns nothing. -/
theorem below_eq_nil_mono {i j : Nat} (hij : i ≤ j) {ls : List Line} (h : below i ls = []) :
    below j ls = [] := by
  rw [below_eq_nil_iff] at h ⊢
  exact fun l hl => Nat.le_trans (h l hl) hij

theorem continues_mono {i j : Nat} (hij : i ≤ j) {l : Line} (h : continues j l = true) :
    continues i l = true := by
  simp only [continues, Bool.or_eq_true, decide_eq_true_eq] at h ⊢
  exact h.imp_right (Nat.lt_of_le_of_lt hij)

/-- A header that is indented further owns no more lines. -/
theorem prefix_owned {i j : Nat} (hij : i ≤ j) (ls : List Line) : owned j ls <+: owned i ls := by
  induction ls with
  | nil => exact List.prefix_refl _
  | cons l ls ih =>
    rw [owned, owned, List.takeWhile_cons, List.takeWhile_cons]
    split
    · next h =>
      rw [if_pos (continues_mono hij h)]
      exact (List.prefix_cons_inj l).mpr ih
    · exact List.nil_prefix

theorem prefix_below {i j : Nat} (hij : i ≤ j) (ls : List Line) : below j ls <+: below i ls :=
  (prefix_owned hij ls).filter _

/-! ## Where the content ends -/

theorem content_eq_nil_iff {ls : List Line} :
    content ls = [] ↔ ∀ l ∈ ls, isBlank l = true := by
  simp [content]

theorem span_le (ls : List Line) : span ls ≤ ls.length :=
  (List.rdropWhile_prefix isBlank ls).length_le

theorem span_append_of_blank {ys : List Line} (h : content ys = []) (xs : List Line) :
    span (xs ++ ys) = span xs := by
  have hall : ∀ l ∈ ys.reverse, isBlank l = true := by
    intro l hl
    exact content_eq_nil_iff.mp h l (List.mem_reverse.mp hl)
  rw [span, List.rdropWhile, List.reverse_append, List.dropWhile_append_of_pos hall, span,
    List.rdropWhile]

theorem span_append_of_content {ys : List Line} (h : content ys ≠ []) (xs : List Line) :
    span (xs ++ ys) = xs.length + span ys := by
  have hne : ¬ (ys.reverse.dropWhile isBlank).isEmpty = true := by
    intro he
    apply h
    rw [content_eq_nil_iff]
    intro l hl
    exact List.dropWhile_eq_nil_iff.mp (List.isEmpty_iff.mp he) l (List.mem_reverse.mpr hl)
  rw [span, List.rdropWhile, List.reverse_append, List.dropWhile_append, if_neg hne, span,
    List.rdropWhile]
  simp only [List.length_reverse, List.length_append]
  omega

theorem span_eq_zero {ls : List Line} (h : content ls = []) : span ls = 0 := by
  have := span_append_of_blank h []
  rwa [List.nil_append, show span [] = 0 from rfl] at this

theorem span_cons_of_not_blank {l : Line} (hb : isBlank l = false) (ls : List Line) :
    span (l :: ls) = span ls + 1 := by
  have hone : span [l] = 1 := by
    rw [span, List.rdropWhile_singleton, if_neg (by simp [hb])]
    rfl
  by_cases h : content ls = []
  · rw [← List.singleton_append, span_append_of_blank h, hone, span_eq_zero h]
  · rw [← List.singleton_append, span_append_of_content h, List.length_singleton]
    omega

theorem span_append_le_iff {xs ys : List Line} :
    span (xs ++ ys) ≤ xs.length ↔ content ys = [] := by
  constructor
  · intro h
    by_cases hc : content ys = []
    · exact hc
    · -- the last line with content lies in `ys`
      obtain ⟨y, hy⟩ := List.exists_mem_of_ne_nil _ hc
      obtain ⟨us, vs, rfl⟩ := List.append_of_mem (mem_content.mp hy).1
      have hpos : span (y :: vs) = span vs + 1 := span_cons_of_not_blank (mem_content.mp hy).2 vs
      have hcy : content (y :: vs) ≠ [] := by
        rw [content_cons_of_not_blank (mem_content.mp hy).2]
        exact List.cons_ne_nil _ _
      rw [← List.append_assoc, span_append_of_content hcy, List.length_append] at h
      omega
  · intro h
    rw [span_append_of_blank h]
    exact span_le xs

/-- What ends a block has content below the block. -/
theorem span_owned_lt {indent : Nat} {xs : List Line} (h : ¬ Deeper indent xs) :
    span (owned indent xs) < span xs := by
  obtain ⟨x, rest, hx, hxs⟩ := exists_owned_of_not_deeper h
  have hb := (continues_eq_false_iff.mp hx).1
  have hc : content (x :: rest) ≠ [] := by
    rw [content_cons_of_not_blank hb]
    exact List.cons_ne_nil _ _
  have hlen := span_le (owned indent xs)
  conv => rhs; rw [hxs, span_append_of_content hc, span_cons_of_not_blank hb]
  omega

theorem span_eq_length {ls : List Line} (h : ∀ l ∈ ls.getLast?, isBlank l = false) :
    span ls = ls.length := by
  rw [span, List.rdropWhile_eq_self_iff.mpr]
  intro hne
  simp [h _ (List.getLast_mem_getLast? hne)]

theorem span_le_of_prefix {xs ys : List Line} (h : xs <+: ys) : span xs ≤ span ys := by
  obtain ⟨zs, rfl⟩ := h
  by_cases hz : content zs = []
  · rw [span_append_of_blank hz]
  · have := span_le xs
    rw [span_append_of_content hz]
    omega

theorem content_rdropWhile (ls : List Line) : content (ls.rdropWhile isBlank) = content ls := by
  have hblank : content (ls.rtakeWhile isBlank) = [] :=
    content_eq_nil_iff.mpr fun l hl => List.mem_rtakeWhile_imp hl
  conv => rhs; rw [← List.rdropWhile_append_rtakeWhile (p := isBlank) (l := ls)]
  rw [content_append, hblank, List.append_nil]

/-! ## Reading over a line

A header reads over a line with content when that is indented further, with all content before it.
-/

section
variable {indent : Nat} {mid : List Line} {l : Line} (hb : isBlank l = false)
include hb

theorem below_through (h : Deeper indent (mid ++ [l])) (rest : List Line) :
    below indent (mid ++ l :: rest) = content mid ++ l :: below indent rest := by
  have hbelow := below_append_of_deeper h rest
  rw [content_append, content_cons_of_not_blank hb, content_nil] at hbelow
  simpa using hbelow

theorem span_owned_through (h : Deeper indent (mid ++ [l])) (rest : List Line) :
    span (owned indent (mid ++ l :: rest)) = mid.length + 1 + span (owned indent rest) := by
  have howned : owned indent (mid ++ l :: rest) = mid ++ l :: owned indent rest := by
    simpa using owned_append_of_deeper h rest
  have hc : content (l :: owned indent rest) ≠ [] := by
    rw [content_cons_of_not_blank hb]
    exact List.cons_ne_nil _ _
  rw [howned, span_append_of_content hc, span_cons_of_not_blank hb]
  omega

/-- A block ends before a line with content when the header does not read over that. -/
theorem span_owned_le_iff {rest : List Line} :
    span (owned indent (mid ++ l :: rest)) ≤ mid.length ↔ ¬ Deeper indent (mid ++ [l]) := by
  constructor
  · intro h hd
    rw [span_owned_through hb hd] at h
    omega
  · intro hd
    have howned := owned_append_of_not_deeper hd rest
    rw [List.append_assoc, List.singleton_append] at howned
    have hshort := span_owned_lt hd
    have hle := span_le (mid ++ [l])
    rw [List.length_append, List.length_singleton] at hle
    rw [howned]
    omega

end

/-! ## Numbered lines -/

theorem numbered_append (start : Nat) (xs ys : List Line) :
    numbered start (xs ++ ys) = numbered start xs ++ numbered (start + xs.length) ys := by
  induction xs generalizing start with
  | nil => rfl
  | cons x xs ih =>
    rw [List.cons_append, numbered, ih, numbered, List.cons_append, List.length_cons,
      show start + 1 + xs.length = start + (xs.length + 1) by omega]

theorem map_snd_numbered (start : Nat) (ls : List Line) : (numbered start ls).map (·.2) = ls := by
  induction ls generalizing start with
  | nil => rfl
  | cons l ls ih => rw [numbered, List.map_cons, ih]

theorem takeWhile_numbered (p : Line → Bool) (start : Nat) (ls : List Line) :
    (numbered start ls).takeWhile (p ·.2) = numbered start (ls.takeWhile p) := by
  induction ls generalizing start with
  | nil => rfl
  | cons l ls ih =>
    rw [numbered, List.takeWhile_cons, List.takeWhile_cons]
    split
    · rw [ih, numbered]
    · rfl

/-- The numbered lines of a block are the owned lines that have content. -/
theorem blockLines_numbered (indent start : Nat) (ls : List Line) :
    blockLines indent (numbered start ls) =
      (numbered start (owned indent ls)).filter (!isBlank ·.2) := by
  rw [blockLines, List.takeWhile_filter, owned, ← takeWhile_numbered]
  simp only [continues, Bool.not_not]

theorem map_snd_blockLines (indent start : Nat) (ls : List Line) :
    (blockLines indent (numbered start ls)).map (·.2) = below indent ls := by
  have hfilter := List.filter_map (f := fun p : Nat × Line => p.2) (p := fun l => !isBlank l)
    (l := numbered start (owned indent ls))
  rw [map_snd_numbered] at hfilter
  rw [blockLines_numbered, below, content, hfilter]
  rfl

theorem getLast?_filter_numbered (start : Nat) (ls : List Line) :
    ((((numbered (start + 1) ls).filter (!isBlank ·.2)).getLast?).map (·.1)).getD start =
      start + span ls := by
  induction ls using List.reverseRecOn with
  | nil => rfl
  | append_singleton ls l ih =>
    rw [numbered_append, List.filter_append, numbered, numbered]
    by_cases hb : isBlank l = true
    · rw [span_append_of_blank (by simp [content, hb]), ← ih]
      simp [hb]
    · have hb' : isBlank l = false := by simpa using hb
      rw [span_append_of_content (by simp [content, hb']), span_cons_of_not_blank hb']
      simp [hb', show span [] = 0 from rfl]
      omega

/-! ## The block of a header -/

/-- The block of a header on line `row`, counted from zero, with the given lines under it. -/
def blockOf (row : Nat) (name header : Line) (under : List Line) : Block :=
  ⟨String.ofList name, ofLines (header :: below (leadingSpace header) under), row,
    row + span (owned (leadingSpace header) under), (below (leadingSpace header) under).length + 1⟩

theorem blockAt?_eq {text : String} {above under : List Line} {header name : Line}
    (h : lines text = above ++ header :: under) (hn : headerName? header = some name) :
    blockAt? text above.length = some (blockOf above.length name header under) := by
  have hrow : (lines text)[above.length]? = some header := by
    rw [h, List.getElem?_append_right (Nat.le_refl _), Nat.sub_self]
    rfl
  have hdrop : (lines text).drop (above.length + 1) = under := by
    rw [h, ← List.drop_drop, List.drop_left]
    rfl
  have hstop := getLast?_filter_numbered above.length (owned (leadingSpace header) under)
  unfold blockAt?
  rw [if_neg (by omega)]
  simp only [Int.toNat_natCast, hrow, hdrop, hn, Option.map_some, map_snd_blockLines]
  rw [← List.length_map (f := fun p : Nat × Line => p.2), map_snd_blockLines, blockLines_numbered,
    hstop]
  rfl

theorem not_blank_of_headerName? {l name : Line} (h : headerName? l = some name) :
    isBlank l = false := by
  cases hb : isBlank l with
  | false => rfl
  | true =>
    have htrim : trimStart l = [] := (dropWhile_isSpace_eq_nil_iff l).mpr hb
    rw [headerName?, htrim] at h
    cases h

/-- A line with a block is a header. -/
theorem exists_header_of_blockAt? {text : String} {row : Nat} {b : Block}
    (h : blockAt? text row = some b) :
    ∃ header name, (lines text)[row]? = some header ∧ headerName? header = some name := by
  unfold blockAt? at h
  rw [if_neg (by omega)] at h
  simp only [Int.toNat_natCast] at h
  split at h
  · cases h
  · next header hr =>
    obtain ⟨name, hn, -⟩ := Option.map_eq_some_iff.mp h
    exact ⟨header, name, hr, hn⟩

/-- A line with a block is a header at which the text splits. -/
theorem exists_split_of_blockAt? {text : String} {line : Int} {b : Block}
    (h : blockAt? text line = some b) :
    ∃ above header name under, lines text = above ++ header :: under ∧ line = above.length ∧
      headerName? header = some name ∧ b = blockOf above.length name header under := by
  have hline : 0 ≤ line := by
    by_contra hneg
    rw [blockAt?, if_pos (by omega)] at h
    cases h
  obtain ⟨row, rfl⟩ := Int.eq_ofNat_of_zero_le hline
  obtain ⟨header, name, hrow, hn⟩ := exists_header_of_blockAt? h
  obtain ⟨hsplit, hlen⟩ := eq_take_cons_drop hrow
  rw [← hlen, blockAt?_eq hsplit hn] at h
  exact ⟨_, header, name, _, hsplit, by rw [hlen], hn, (Option.some.inj h).symm⟩

theorem lines_code_blockOf {text : String} {above under : List Line} {header : Line}
    (h : lines text = above ++ header :: under) (row : Nat) (name : Line) :
    lines (blockOf row name header under).code = header :: below (leadingSpace header) under := by
  have hb := noBreaks_lines text
  rw [h] at hb
  apply lines_ofLines (List.cons_ne_nil _ _)
  apply hb.mono
  intro l hl
  rcases List.mem_cons.mp hl with rfl | hl
  · exact List.mem_append_right _ List.mem_cons_self
  · have hm := List.takeWhile_subset _ (mem_content.mp hl).1
    exact List.mem_append_right _ (List.mem_cons_of_mem _ hm)

/-! ## Reading a block off a split -/

theorem endLine_of_split {text : String} {above under : List Line} {line name : Line} {b : Block}
    (h : lines text = above ++ line :: under) (hn : headerName? line = some name)
    (hb : blockAt? text above.length = some b) :
    b.endLine = above.length + span (owned (leadingSpace line) under) := by
  rw [blockAt?_eq h hn] at hb
  rw [← Option.some.inj hb, blockOf]

theorem code_of_split {text : String} {above under : List Line} {line name : Line} {b : Block}
    (h : lines text = above ++ line :: under) (hn : headerName? line = some name)
    (hb : blockAt? text above.length = some b) :
    lines b.code = line :: below (leadingSpace line) under := by
  rw [blockAt?_eq h hn] at hb
  rw [← Option.some.inj hb, lines_code_blockOf h]

/-- A block does not end before its header. -/
theorem row_le_endLine {text : String} {row : Nat} {b : Block} (h : blockAt? text row = some b) :
    (row : Int) ≤ b.endLine := by
  obtain ⟨header, name, hrow, hn⟩ := exists_header_of_blockAt? h
  obtain ⟨hsplit, hlen⟩ := eq_take_cons_drop hrow
  rw [← hlen] at h ⊢
  have := endLine_of_split hsplit hn h
  omega

end KvMarkup.Edit

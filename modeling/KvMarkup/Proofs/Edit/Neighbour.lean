import KvMarkup.Proofs.Edit.Host

/-!
# What a drop does to the other widgets

A snippet is dropped at the end of its target's block.  The blocks of other headers that do not
hold the target fall in three kinds:

* a header above the target: its block ended before the target and still does;
* a header below the place of the child: its block moves down as a whole;
* a header inside the target's block: its block stays as it is when it ended before the target's or
  when the snippet is not indented further than the header; otherwise it takes the snippet in.

So a drop disturbs another widget exactly when the two blocks end together and the widget is
indented less than the snippet (`drop_spares_iff`).  That takes a text whose widgets are indented by
less than the width of the drop.
-/

namespace KvMarkup.Edit

open KvMarkup.Text KvMarkup.Outline

/-- The block `b` of a header `line` is spared by lines that are dropped at a column at the end of
the block `host`. -/
def Spared (host b : Block) (line : Line) (column : Int) (dropped : List Line) : Prop :=
  dropped = [] ∨ b.endLine ≠ host.endLine ∨ column ≤ leadingSpace line

/-- The block `b'` is the block `b` after a drop: the same code when it is spared, and its code with
the dropped lines at the end when it is not. -/
def AfterDrop (b b' : Block) (dropped : List Line) (spared : Prop) : Prop :=
  (b'.code = b.code ↔ spared) ∧ (¬ spared → lines b'.code = lines b.code ++ dropped)

/-! ## Comparing two blocks of one header -/

/-- What a drop does to a block is what it does to the lines under its header. -/
theorem exists_afterDrop {text text' : String} {above above' under under' dropped : List Line}
    {line name : Line} {b : Block} {spared : Prop} (h : lines text = above ++ line :: under)
    (h' : lines text' = above' ++ line :: under') (hn : headerName? line = some name)
    (hb : blockAt? text above.length = some b)
    (hkept : spared → below (leadingSpace line) under' = below (leadingSpace line) under)
    (htaken : ¬ spared → dropped ≠ [] ∧
      below (leadingSpace line) under' = below (leadingSpace line) under ++ dropped) :
    ∃ b', blockAt? text' above'.length = some b' ∧ AfterDrop b b' dropped spared := by
  have hb' := blockAt?_eq h' hn
  refine ⟨_, hb', ?_, ?_⟩
  · rw [← lines_inj, code_of_split h hn hb, code_of_split h' hn hb']
    constructor
    · intro hcode
      apply Classical.byContradiction
      intro hs
      obtain ⟨hne, htake⟩ := htaken hs
      rw [htake] at hcode
      simp [hne] at hcode
    · intro hs
      rw [hkept hs]
  · intro hs
    rw [code_of_split h hn hb, code_of_split h' hn hb', (htaken hs).2, List.cons_append]

/-! ## How far a header reads -/

/-- A block that ends with lines that are indented further has nothing under them. -/
theorem below_eq_nil_of_span_le {indent : Nat} {inner under : List Line}
    (hd : Deeper indent inner) (h : span (owned indent (inner ++ under)) ≤ inner.length) :
    below indent under = [] := by
  rw [owned_append_of_deeper hd, span_append_le_iff] at h
  exact h

theorem span_owned_append {indent : Nat} {inner under : List Line} (hd : Deeper indent inner)
    (h : below indent under = []) : span (owned indent (inner ++ under)) = span inner := by
  rw [owned_append_of_deeper hd]
  exact span_append_of_blank h inner

/-- A header takes in an anchored snippet as a whole or not at all. -/
theorem below_anchor_append {indent : Nat} {under : List Line} (h : below indent under = [])
    (ls : List Line) (column : Int) :
    below indent (anchor ls column ++ under) =
      if (indent : Int) < column then anchor ls column else [] := by
  split
  · next hlt =>
    have hd : Deeper indent (anchor ls column) := by
      intro l hl
      have := le_leadingSpace_anchor (mem_content.mp hl).1
      omega
    rw [below_append_of_deeper hd, h, List.append_nil]
    exact content_eq_self fun l hl => not_blank_of_mem_anchor hl
  · next hge =>
    cases ha : anchor ls column with
    | nil => exact h
    | cons l rest =>
      have hmem : l ∈ anchor ls column := by
        rw [ha]
        exact List.mem_cons_self
      have hhead : l ∈ (anchor ls column).head? := by
        rw [ha]
        rfl
      have hs := leadingSpace_head_anchor hhead
      rw [List.cons_append, below_cons_of_not_blank (not_blank_of_mem_anchor hmem),
        if_neg (by omega)]

/-! ## The three kinds of neighbours -/

section
variable {document result : String} {header line name : Line}
  {above inner under dropped : List Line} {column : Int} {host b : Block}
  (hls : lines document = above ++ header :: (inner ++ under))
  (hresult : lines result = above ++ header :: (inner ++ (dropped ++ under)))
  (hhost : host.endLine = above.length + span inner)
  (hn : headerName? line = some name)

include hls hresult hhost hn

/-- A header above the target whose block does not hold the target. -/
theorem afterDrop_above (hheader : isBlank header = false) {k : Nat} (hk : above[k]? = some line)
    (hb : blockAt? document k = some b) (hnot : ¬ (above.length : Int) ≤ b.endLine) :
    ∃ b', blockAt? result k = some b' ∧
      AfterDrop b b' dropped (Spared host b line column dropped) := by
  obtain ⟨hsplit, hlen⟩ := eq_take_cons_drop hk
  generalize above.take k = pre at hsplit hlen
  generalize above.drop (k + 1) = mid at hsplit
  subst hlen
  have hls' : lines document = pre ++ line :: (mid ++ header :: (inner ++ under)) := by
    rw [hls, hsplit]
    simp
  have hresult' : lines result =
      pre ++ line :: (mid ++ header :: (inner ++ (dropped ++ under))) := by
    rw [hresult, hsplit]
    simp
  have hend := endLine_of_split hls' hn hb
  have hlen : above.length = pre.length + 1 + mid.length := by
    rw [hsplit, List.length_append, List.length_cons]
    omega
  -- the block stops at the target's header at the latest, whatever comes after it
  have hspan : span (owned (leadingSpace line) (mid ++ header :: (inner ++ under))) ≤
      mid.length := by omega
  have hstop := (span_owned_le_iff hheader).mp hspan
  have hsame : ∀ rest, below (leadingSpace line) (mid ++ header :: rest) =
      below (leadingSpace line) (mid ++ [header]) := by
    intro rest
    rw [← below_append_of_not_deeper hstop rest, List.append_assoc, List.singleton_append]
  have hspared : Spared host b line column dropped := Or.inr (Or.inl (by omega))
  exact exists_afterDrop hls' hresult' hn hb (fun _ => (hsame _).trans (hsame _).symm)
    (fun hs => absurd hspared hs)

/-- A header below the place of the child. -/
theorem afterDrop_below {k : Nat} (hk : under[k]? = some line)
    (hb : blockAt? document (above.length + 1 + inner.length + k : Nat) = some b) :
    ∃ b', blockAt? result (above.length + 1 + inner.length + k + dropped.length : Nat) = some b' ∧
      AfterDrop b b' dropped (Spared host b line column dropped) := by
  obtain ⟨hsplit, hlen⟩ := eq_take_cons_drop hk
  generalize under.take k = pre at hsplit hlen
  generalize under.drop (k + 1) = rest at hsplit
  have hls' : lines document = (above ++ header :: (inner ++ pre)) ++ line :: rest := by
    rw [hls, hsplit]
    simp
  have hresult' : lines result = (above ++ header :: (inner ++ (dropped ++ pre))) ++ line :: rest := by
    rw [hresult, hsplit]
    simp
  have hrow : above.length + 1 + inner.length + k = (above ++ header :: (inner ++ pre)).length := by
    simp only [List.length_append, List.length_cons]
    omega
  have hrow' : above.length + 1 + inner.length + k + dropped.length =
      (above ++ header :: (inner ++ (dropped ++ pre))).length := by
    simp only [List.length_append, List.length_cons]
    omega
  rw [hrow] at hb
  have hend := endLine_of_split hls' hn hb
  have hspan := span_le inner
  have hspared : Spared host b line column dropped := Or.inr (Or.inl (by omega))
  rw [hrow']
  exact exists_afterDrop hls' hresult' hn hb (fun _ => rfl) (fun hs => absurd hspared hs)

/-- A header inside the block of the target. -/
theorem afterDrop_inside (hdeep : Deeper (leadingSpace header) inner)
    (hunder : below (leadingSpace header) under = []) {ls : List Line}
    (hdropped : dropped = anchor ls column) {k : Nat} (hk : inner[k]? = some line)
    (hb : blockAt? document (above.length + 1 + k : Nat) = some b) :
    ∃ b', blockAt? result (above.length + 1 + k : Nat) = some b' ∧
      AfterDrop b b' dropped (Spared host b line column dropped) := by
  have hblank := not_blank_of_headerName? hn
  have hlt : leadingSpace header < leadingSpace line :=
    hdeep line (mem_content.mpr ⟨List.mem_of_getElem? hk, hblank⟩)
  have hnone : below (leadingSpace line) under = [] := below_eq_nil_mono (Nat.le_of_lt hlt) hunder
  obtain ⟨hsplit, hlen⟩ := eq_take_cons_drop hk
  generalize inner.take k = pre at hsplit hlen
  generalize inner.drop (k + 1) = mid at hsplit
  subst hlen
  have hls' : lines document = (above ++ header :: pre) ++ line :: (mid ++ under) := by
    rw [hls, hsplit]
    simp
  have hresult' : lines result =
      (above ++ header :: pre) ++ line :: (mid ++ (dropped ++ under)) := by
    rw [hresult, hsplit]
    simp
  have hrow : above.length + 1 + pre.length = (above ++ header :: pre).length := by
    rw [List.length_append, List.length_cons]
    omega
  rw [hrow] at hb ⊢
  have hend := endLine_of_split hls' hn hb
  have hspan : span inner = pre.length + (span mid + 1) := by
    have hc : content (line :: mid) ≠ [] := by
      rw [content_cons_of_not_blank hblank]
      exact List.cons_ne_nil _ _
    rw [hsplit, span_append_of_content hc, span_cons_of_not_blank hblank]
  by_cases hmid : Deeper (leadingSpace line) mid
  · -- the two blocks end together, so the column decides
    have hsame : b.endLine = host.endLine := by
      rw [span_owned_append hmid hnone] at hend
      omega
    have hold : below (leadingSpace line) (mid ++ under) = content mid := by
      rw [below_append_of_deeper hmid, hnone, List.append_nil]
    have hnew : below (leadingSpace line) (mid ++ (dropped ++ under)) =
        content mid ++ if (leadingSpace line : Int) < column then dropped else [] := by
      rw [below_append_of_deeper hmid, hdropped, below_anchor_append hnone]
    refine exists_afterDrop hls' hresult' hn hb ?_ ?_
    · rintro (hnil | hne | hcol)
      · rw [hnil, List.nil_append]
      · exact absurd hsame hne
      · rw [hold, hnew, if_neg (by omega), List.append_nil]
    · intro hs
      have hne : dropped ≠ [] := fun h => hs (Or.inl h)
      have hcol : ¬ column ≤ leadingSpace line := fun h => hs (Or.inr (Or.inr h))
      refine ⟨hne, ?_⟩
      rw [hold, hnew, if_pos (by omega)]
  · -- the block ends before the target's, so nothing of the drop is seen from it
    have hshort := span_owned_lt hmid
    have hspared : Spared host b line column dropped := by
      refine Or.inr (Or.inl ?_)
      rw [owned_append_of_not_deeper hmid] at hend
      omega
    refine exists_afterDrop hls' hresult' hn hb (fun _ => ?_) (fun hs => absurd hspared hs)
    rw [below_append_of_not_deeper hmid, below_append_of_not_deeper hmid]

end

/-! ## All neighbours -/

/-- The line, from zero, that a header stands on when `count` lines have come in at the place of a
target's new child. -/
def rowAfterDrop (target : Node String Int) (count row : Nat) : Nat :=
  if target.insertionLine ≤ row then row + count else row

/-- A line stands above a header, on it, between it and a place below it, or under that place. -/
theorem getElem?_split {above inner under : List Line} {header line : Line} {row : Nat}
    (h : (above ++ header :: (inner ++ under))[row]? = some line) :
    above[row]? = some line ∨ row = above.length ∨
      (∃ k, row = above.length + 1 + k ∧ inner[k]? = some line) ∨
      ∃ k, row = above.length + 1 + inner.length + k ∧ under[k]? = some line := by
  rcases Nat.lt_trichotomy row above.length with hlt | heq | hgt
  · rw [List.getElem?_append_left hlt] at h
    exact Or.inl h
  · exact Or.inr (Or.inl heq)
  · refine Or.inr (Or.inr ?_)
    obtain ⟨k, rfl⟩ : ∃ k, row = above.length + 1 + k := ⟨row - (above.length + 1), by omega⟩
    rw [List.getElem?_append_right (by omega),
      show above.length + 1 + k - above.length = k + 1 by omega, List.getElem?_cons_succ] at h
    by_cases hk : k < inner.length
    · rw [List.getElem?_append_left hk] at h
      exact Or.inl ⟨k, rfl, h⟩
    · rw [List.getElem?_append_right (by omega)] at h
      exact Or.inr ⟨k - inner.length, by omega, h⟩

/-- **Which widgets a drop disturbs.**  A snippet is dropped under a host whose block does not go on
past the place of the child.  Any other header whose block does not hold the host's has its block
again, as far down as it was or by as many lines further as were dropped above it, and the code of
that block is the same exactly when nothing was dropped, or the two blocks did not end together, or
the header is indented at least as far as the snippet.  Otherwise the dropped lines have come into
it. -/
theorem drop_spares_iff {document : String} {target : Node String Int} {header : Line}
    {host : Block} (hh : Hosts (lines document) target header)
    (hhost : blockAt? document (target.line - 1) = some host)
    (hend : host.endLine < target.insertionLine) (snippet : String) (width : Int)
    {row : Nat} {line : Line} {b : Block} (hline : (lines document)[row]? = some line)
    (hb : blockAt? document row = some b)
    (hnot : ¬ ((row : Int) ≤ target.line - 1 ∧ target.line - 1 ≤ b.endLine)) :
    ∃ b', blockAt? (drop document snippet (some target) width).text
          (rowAfterDrop target (anchoredSnippet snippet (leadingBlanks header + width)).length
            row) = some b' ∧
      (b'.code = b.code ↔ Spared host b line (leadingBlanks header + width)
        (anchoredSnippet snippet (leadingBlanks header + width))) ∧
      (¬ Spared host b line (leadingBlanks header + width)
          (anchoredSnippet snippet (leadingBlanks header + width)) →
        lines b'.code =
          lines b.code ++ anchoredSnippet snippet (leadingBlanks header + width)) := by
  obtain ⟨_, name, hat, hn⟩ := exists_header_of_blockAt? hb
  rw [hline] at hat
  obtain rfl := Option.some.inj hat
  obtain ⟨hname, hhn⟩ := hh.exists_name
  have hpos := hh.line_pos
  have hrow : ((target.line - 1).toNat : Int) = target.line - 1 := by omega
  rw [← hrow] at hhost
  have hle := row_le_endLine hhost
  obtain ⟨above, inner, under, hls, hline', hinner, -, hplace⟩ := hh.exists_split (by omega)
  have hdeep : Deeper (leadingSpace header) inner := hinner ▸ hh.deeper
  have habove : (target.line - 1).toNat = above.length := by omega
  rw [habove] at hhost
  have hstop := endLine_of_split hls hhn hhost
  have hlen : (lines document).length = above.length + 1 + inner.length + under.length := by
    rw [hls]
    simp only [List.length_append, List.length_cons]
    omega
  have hresult := hh.lines_drop hls hplace snippet width
  rw [place, if_neg (by omega)] at hplace
  -- the lines under the place, if there are any, start after the host's block
  have hnone : below (leadingSpace header) under = [] := by
    cases under with
    | nil => rfl
    | cons l rest =>
      rw [List.length_cons] at hlen
      exact below_eq_nil_of_span_le hdeep (by omega)
  rw [span_owned_append hdeep hnone] at hstop
  have hself := row_le_endLine hb
  have hlt := (List.getElem?_eq_some_iff.mp hline).1
  rw [hls] at hline
  rcases getElem?_split hline with hk | heq | ⟨k, rfl, hk⟩ | ⟨k, rfl, hk⟩
  · have hlt' := (List.getElem?_eq_some_iff.mp hk).1
    rw [rowAfterDrop, if_neg (by omega)]
    exact afterDrop_above hls hresult hstop hn (not_blank_of_headerName? hhn) hk hb (by omega)
  · omega
  · have hlt' := (List.getElem?_eq_some_iff.mp hk).1
    rw [rowAfterDrop, if_neg (by omega)]
    exact afterDrop_inside hls hresult hstop hn hdeep hnone rfl hk hb
  · rw [rowAfterDrop, if_pos (by omega)]
    exact afterDrop_below hls hresult hstop hn hk hb

/-- Two widgets, the inner one indented by two blanks. -/
def nested : String := "Root:\n  A:"

def nestedRoot : Node String Int := widgetOn 1 "Root" [widgetOn 2 "A" []]

def nestedRootBlock : Block := ⟨"Root", "Root:\n  A:", 0, 1, 2⟩

def nestedInnerBlock : Block := ⟨"A", "  A:", 1, 1, 1⟩

theorem hosts_nested : Hosts (lines nested) nestedRoot "Root:".toList :=
  ⟨by decide, by decide, by decide, by decide, by decide⟩

/-- With the width of the text the inner widget is spared. -/
theorem drop_spares_nested :
    ∃ b', blockAt? (drop nested "Label:" (some nestedRoot) 2).text 1 = some b' ∧
      b'.code = nestedInnerBlock.code := by
  have hroot : blockAt? nested (nestedRoot.line - 1) = some nestedRootBlock := by decide
  have hline : (lines nested)[1]? = some "  A:".toList := by decide
  have hinner : blockAt? nested (1 : Nat) = some nestedInnerBlock := by decide
  obtain ⟨b', hb', hcode, -⟩ := drop_spares_iff hosts_nested hroot (by decide) "Label:" 2 hline
    hinner (by decide)
  exact ⟨b', hb', hcode.mpr (Or.inr (Or.inr (by decide)))⟩

/-- With a larger width the inner widget takes the snippet in. -/
theorem drop_disturbs_nested :
    Hosts (lines nested) nestedRoot "Root:".toList ∧
      blockAt? nested 0 = some nestedRootBlock ∧
      nestedRootBlock.endLine < nestedRoot.insertionLine ∧
      blockAt? nested 1 = some nestedInnerBlock ∧
      ¬ ((1 : Int) ≤ nestedRoot.line - 1 ∧ nestedRoot.line - 1 ≤ nestedInnerBlock.endLine) ∧
      (blockAt? (drop nested "Label:" (some nestedRoot) 4).text 1).map (·.code) =
        some "  A:\n    Label:" ∧
      nestedInnerBlock.code ≠ "  A:\n    Label:" := by
  refine ⟨hosts_nested, ?_, ?_, ?_, ?_, ?_, ?_⟩ <;> decide

end KvMarkup.Edit

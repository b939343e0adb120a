import KvMarkup.Text.Lines

/-!
# Cutting a text and joining it again

Every list of lines without line feeds, except the empty list, is the list of lines of exactly one
text, and a text gives such a list:

    ofLines (lines s) = s                                                         (ofLines_lines)
    ls ≠ [] → NoBreaks ls → lines (ofLines ls) = ls                               (lines_ofLines)
    NoBreaks (lines s)                                                           (noBreaks_lines)

So an edit that builds its text from whole lines can be read on the lines alone.
-/

namespace KvMarkup.Text

/-- No line holds a line feed. -/
def NoBreaks (ls : List Line) : Prop := ∀ l ∈ ls, '\n' ∉ l

instance (ls : List Line) : Decidable (NoBreaks ls) :=
  inferInstanceAs (Decidable (∀ l ∈ ls, '\n' ∉ l))

theorem ofLines_lines (s : String) : ofLines (lines s) = s := by
  rw [ofLines, lines, List.intercalate_splitOn, String.ofList_toList]

theorem lines_inj {s t : String} : lines s = lines t ↔ s = t := by
  constructor
  · intro h
    rw [← ofLines_lines s, h, ofLines_lines]
  · rintro rfl
    rfl

theorem lines_ofLines {ls : List Line} (hne : ls ≠ []) (h : NoBreaks ls) :
    lines (ofLines ls) = ls := by
  rw [lines, ofLines, String.toList_ofList]
  exact List.splitOn_intercalate '\n' h hne

/-- The pieces between the occurrences of a character do not hold it. -/
theorem not_mem_of_mem_splitOn {c : Char} {cs piece : List Char} (h : piece ∈ cs.splitOn c) :
    c ∉ piece := by
  induction cs generalizing piece with
  | nil => simp_all
  | cons d cs ih =>
    rw [List.splitOn_cons_eq_if_modifyHead] at h
    split at h
    · rcases List.mem_cons.mp h with rfl | h
      · exact List.not_mem_nil
      · exact ih h
    · next hd =>
      -- the first piece grows by a character that is not the one looked for
      obtain ⟨p, ps, hp⟩ := List.exists_cons_of_ne_nil (List.splitOn_ne_nil c cs)
      rw [hp] at ih h
      rcases List.mem_cons.mp h with rfl | h
      · intro hm
        rcases List.mem_cons.mp hm with rfl | hm
        · exact hd (beq_self_eq_true _)
        · exact ih List.mem_cons_self hm
      · exact ih (List.mem_cons_of_mem _ h)

theorem mem_intercalate_iff {c d : Char} (hc : c ≠ d) (ls : List Line) :
    c ∈ [d].intercalate ls ↔ ∃ l ∈ ls, c ∈ l := by
  induction ls with
  | nil => simp [List.intercalate]
  | cons l ls ih =>
    cases ls with
    | nil => simp [List.intercalate]
    | cons m ms =>
      rw [List.intercalate_cons_cons, List.mem_append, List.mem_append, ih, List.mem_singleton,
        or_iff_left hc]
      simp only [List.mem_cons, or_and_right, exists_or, exists_eq_left]

/-- The characters of a text but the one that it is cut at are those of its pieces. -/
theorem exists_mem_splitOn_iff {c d : Char} (hc : c ≠ d) (cs : List Char) :
    (∃ l ∈ cs.splitOn d, c ∈ l) ↔ c ∈ cs := by
  rw [← mem_intercalate_iff hc, List.intercalate_splitOn]

theorem noBreaks_splitOn (cs : List Char) : NoBreaks (cs.splitOn '\n') :=
  fun _ => not_mem_of_mem_splitOn

theorem noBreaks_lines (s : String) : NoBreaks (lines s) := noBreaks_splitOn _

/-! ## Lists of lines without line feeds -/

theorem NoBreaks.mono {ls ms : List Line} (h : NoBreaks ls) (hs : ms ⊆ ls) : NoBreaks ms :=
  fun l hl => h l (hs hl)

theorem noBreaks_append {ls ms : List Line} :
    NoBreaks (ls ++ ms) ↔ NoBreaks ls ∧ NoBreaks ms := by
  constructor
  · intro h
    exact ⟨h.mono (List.subset_append_left ls ms), h.mono (List.subset_append_right ls ms)⟩
  · rintro ⟨h1, h2⟩ l hl
    rcases List.mem_append.mp hl with hl | hl
    · exact h1 l hl
    · exact h2 l hl

/-- Lines split around one of them. -/
theorem eq_take_cons_drop {ls : List Line} {k : Nat} {l : Line} (h : ls[k]? = some l) :
    ls = ls.take k ++ l :: ls.drop (k + 1) ∧ (ls.take k).length = k := by
  obtain ⟨hlt, hget⟩ := List.getElem?_eq_some_iff.mp h
  constructor
  · rw [← hget, ← List.drop_eq_getElem_cons hlt, List.take_append_drop]
  · rw [List.length_take]
    omega

/-- Where the same lines split at two of them, one comes after the other. -/
theorem exists_between {above above' under under' : List Line} {l l' : Line}
    (h : above ++ l :: under = above' ++ l' :: under') (hlt : above.length < above'.length) :
    ∃ mid, above' = above ++ l :: mid ∧ under = mid ++ l' :: under' := by
  rcases List.append_eq_append_iff.mp h with ⟨as, habove, hunder⟩ | ⟨as, habove, -⟩
  · cases as with
    | nil => simp [habove] at hlt
    | cons a mid =>
      obtain ⟨rfl, rfl⟩ := List.cons.inj hunder
      exact ⟨mid, habove, rfl⟩
  · rw [habove, List.length_append] at hlt
    omega

/-! ## A line and the first of some character in it -/

theorem takeWhile_before {c : Char} {xs : Line} (h : c ∉ xs) (ys : Line) :
    (xs ++ c :: ys).takeWhile (· != c) = xs := by
  have hall : ∀ d ∈ xs, (d != c) = true := by
    intro d hd
    rw [bne_iff_ne]
    rintro rfl
    exact h hd
  rw [List.takeWhile_append_of_pos hall, List.takeWhile_cons_of_neg (by simp), List.append_nil]

theorem drop_behind (c : Char) (xs ys : Line) : (xs ++ c :: ys).drop (xs.length + 1) = ys := by
  rw [← List.drop_drop, List.drop_left]
  rfl

theorem occursIn_iff {sep l : Line} : occursIn sep l = true ↔ sep <:+: l := by
  induction l with
  | nil => simp [occursIn]
  | cons c l ih =>
    rw [occursIn, Bool.or_eq_true, ih, List.isPrefixOf_iff_prefix, List.infix_cons_iff]

end KvMarkup.Text

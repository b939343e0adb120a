import KvMarkup.Proofs.Text.LineEnding
import KvMarkup.Proofs.Text.Utf8

/-!
# Every kind of line break

Cutting a text at CR LF, CR and LF alike takes one pass over it, and so does writing every line
break as a line feed.  Both come to the same as replacing twice, first CR LF and then what is left
of CR, each by a line feed:

    universalBreaks cs = replaceAll "\r" "\n" (replaceAll "\r\n" "\n" cs)        (universalBreaks_eq)
    splitLines s = lines (universal s)                                     (splitLines_eq_lines)

In a text whose carriage returns all stand in front of line feeds these are the lines that edits
count by, less a carriage return at the end (`forall₂_splitBreaks`).
-/

namespace KvMarkup.Text

/-! ## Replacing -/

/-- The text with every `old` in it written as `new`, from the left and without overlap, once `skip`
characters are passed over; `old` is not empty. -/
def replaceFrom (old new : List Char) : Nat → List Char → List Char
  | _, [] => []
  | skip + 1, _ :: cs => replaceFrom old new skip cs
  | 0, c :: cs =>
    if old.isPrefixOf (c :: cs) then new ++ replaceFrom old new (old.length - 1) cs
    else c :: replaceFrom old new 0 cs

/-- The text with every `old` in it written as `new`. -/
def replaceAll (old new cs : List Char) : List Char := replaceFrom old new 0 cs

theorem replaceAll_cons_of_mismatch {old new : List Char} {c : Char} {cs : List Char}
    (h : ¬old <+: c :: cs) : replaceAll old new (c :: cs) = c :: replaceAll old new cs := by
  rw [replaceAll, replaceFrom, if_neg (by rwa [List.isPrefixOf_iff_prefix]), replaceAll]

/-- A single character is replaced wherever it stands. -/
theorem replaceAll_single (o n : Char) (cs : List Char) :
    replaceAll [o] [n] cs = cs.map fun c => if c = o then n else c := by
  induction cs with
  | nil => rfl
  | cons c cs ih =>
    by_cases h : c = o
    · subst h
      rw [List.map_cons, if_pos rfl, ← ih]
      simp [replaceAll, replaceFrom]
    · rw [replaceAll_cons_of_mismatch (by simpa using Ne.symm h), List.map_cons, if_neg h, ih]

theorem replaceAll_pair (new cs : List Char) :
    replaceAll ['\r', '\n'] new ('\r' :: '\n' :: cs) = new ++ replaceAll ['\r', '\n'] new cs := rfl

/-- Two passes write the line breaks as line feeds. -/
theorem universalBreaks_eq (cs : List Char) :
    universalBreaks cs = replaceAll ['\r'] ['\n'] (replaceAll ['\r', '\n'] ['\n'] cs) := by
  rw [replaceAll_single]
  fun_induction universalBreaks cs with
  | case1 => rfl
  | case2 cs ih => rw [replaceAll_pair, ih]; rfl
  | case3 cs hpair ih =>
    have hnot : ¬['\r', '\n'] <+: '\r' :: cs := by
      rintro ⟨rest, heq⟩
      exact hpair rest (List.cons.inj heq).2.symm
    rw [replaceAll_cons_of_mismatch hnot, List.map_cons, if_pos rfl, ih]
  | case4 c cs hpair hc ih =>
    have hnot : ¬['\r', '\n'] <+: c :: cs := by
      rintro ⟨rest, heq⟩
      exact hc (List.cons.inj heq).1.symm
    rw [replaceAll_cons_of_mismatch hnot, List.map_cons, if_neg hc, ih]

/-! ## Cutting -/

theorem splitBreaks_ne_nil (cs : List Char) : splitBreaks cs ≠ [] := by
  fun_induction splitBreaks cs <;> exact List.cons_ne_nil _ _

theorem splitBreaks_return {cs : List Char} (h : ∀ rest, cs ≠ '\n' :: rest) :
    splitBreaks ('\r' :: cs) = [] :: splitBreaks cs :=
  splitBreaks.eq_3 cs h

theorem splitBreaks_cons {c : Char} (hr : c ≠ '\r') (hn : c ≠ '\n') (cs : List Char) :
    splitBreaks (c :: cs) = (splitBreaks cs).modifyHead (List.cons c) := by
  obtain ⟨l, ls, hls⟩ := List.exists_cons_of_ne_nil (splitBreaks_ne_nil cs)
  rw [splitBreaks.eq_5 c cs (fun _ hc => absurd hc hr) hr hn, hls, List.modifyHead_cons]

/-- Cutting at every line break is cutting at the line feeds that stand for them. -/
theorem splitBreaks_eq (cs : List Char) : splitBreaks cs = (universalBreaks cs).splitOn '\n' := by
  fun_induction universalBreaks cs with
  | case1 => rfl
  | case2 cs ih => rw [splitOn_break, ← ih]; rfl
  | case3 cs hpair ih => rw [splitOn_break, ← ih, splitBreaks_return hpair]
  | case4 c cs hpair hr ih =>
    by_cases hn : c = '\n'
    · subst hn
      rw [splitOn_break, ← ih]
      rfl
    · rw [splitOn_cons hn, ← ih, splitBreaks_cons hr hn]

theorem splitLines_eq_lines (s : String) : splitLines s = lines (universal s) := by
  rw [splitLines, splitBreaks_eq, lines, universal, String.toList_ofList]

theorem not_mem_of_mem_splitLines {s : String} {l : Line} (h : l ∈ splitLines s) :
    '\r' ∉ l ∧ '\n' ∉ l := by
  have huniversal : '\r' ∉ (universal s).toList := by
    rw [universal, String.toList_ofList]
    exact not_mem_universalBreaks _
  rw [splitLines_eq_lines] at h
  exact ⟨not_mem_of_mem_lines huniversal l h, not_mem_of_mem_splitOn h⟩

/-! ## Carriage returns in front of line feeds -/

/-- Every carriage return stands in front of a line feed. -/
def ReturnsPaired (cs : List Char) : Prop := ∀ i, cs[i]? = some '\r' → cs[i + 1]? = some '\n'

theorem ReturnsPaired.tail {c : Char} {cs : List Char} (h : ReturnsPaired (c :: cs)) :
    ReturnsPaired cs :=
  fun i => h (i + 1)

theorem forall₂_modifyHead {c : Char} (hc : c ≠ '\r') {ls ls' : List Line}
    (h : List.Forall₂ UpToReturn ls ls') :
    List.Forall₂ UpToReturn (ls.modifyHead (List.cons c)) (ls'.modifyHead (List.cons c)) := by
  cases h with
  | nil => exact .nil
  | cons hl hls =>
    obtain ⟨hr, heq⟩ := hl
    refine .cons ⟨by simp [hc.symm, hr], ?_⟩ hls
    rcases heq with rfl | rfl
    · exact .inl rfl
    · exact .inr rfl

/-- Then the lines that edits count by are these lines, with a carriage return at the end or
without. -/
theorem forall₂_splitBreaks {cs : List Char} (h : ReturnsPaired cs) :
    List.Forall₂ UpToReturn (splitBreaks cs) (cs.splitOn '\n') := by
  fun_induction universalBreaks cs with
  | case1 => exact .cons ⟨List.not_mem_nil, .inl rfl⟩ .nil
  | case2 cs ih =>
    rw [splitOn_cons (by decide), splitOn_break]
    exact .cons ⟨List.not_mem_nil, .inr rfl⟩ (ih h.tail.tail)
  | case3 cs hpair ih =>
    obtain ⟨rest, rfl⟩ : ∃ rest, cs = '\n' :: rest := by
      have hnext := h 0 rfl
      cases cs with
      | nil => cases hnext
      | cons d rest => exact ⟨rest, by rw [Option.some.inj hnext]⟩
    exact absurd rfl (hpair rest)
  | case4 c cs hpair hr ih =>
    by_cases hn : c = '\n'
    · subst hn
      rw [splitOn_break]
      exact .cons ⟨List.not_mem_nil, .inl rfl⟩ (ih h.tail)
    · rw [splitOn_cons hn, splitBreaks_cons hr hn]
      exact forall₂_modifyHead hr (ih h.tail)

/-- **A host's lines are those between line breaks of every kind.**  They are the lines that are
left when every CR LF and then every other CR is replaced by a line feed, so no line break is in
any of them.  Where every carriage return stands in front of a line feed they are, one by one, the
lines that edits count by, less a carriage return at the end. -/
theorem splitLines_universal (s : String) :
    splitLines s =
        (replaceAll ['\r'] ['\n'] (replaceAll ['\r', '\n'] ['\n'] s.toList)).splitOn '\n' ∧
      (∀ l ∈ splitLines s, '\r' ∉ l ∧ '\n' ∉ l) ∧
      (ReturnsPaired s.toList → List.Forall₂ UpToReturn (splitLines s) (lines s)) := by
  refine ⟨?_, fun l hl => not_mem_of_mem_splitLines hl, fun h => forall₂_splitBreaks h⟩
  rw [splitLines, splitBreaks_eq, universalBreaks_eq]

/-- A text with both line endings that occur in files. -/
def mixedEndings : String := "Box:\r\n    size: 1\n\r\n"

theorem splitLines_universal_mixed :
    ReturnsPaired mixedEndings.toList ∧
      List.Forall₂ UpToReturn (splitLines mixedEndings) (lines mixedEndings) := by
  have hpaired : ReturnsPaired mixedEndings.toList := by
    intro i hi
    have hlt : i < 20 := (List.getElem?_eq_some_iff.mp hi).1
    revert hi
    revert i
    decide
  exact ⟨hpaired, (splitLines_universal mixedEndings).2.2 hpaired⟩

end KvMarkup.Text

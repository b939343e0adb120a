import Mathlib.Data.List.Forall2
import KvMarkup.Proofs.Text.Lines
import KvMarkup.Proofs.Text.Trim

/-!
# Line endings

A text with CR LF for every line feed has the same lines, each but the last with a carriage return
at its end:

    lines (crlf s) = withReturns (lines s)                                          (lines_crlf)
    '\r' ∉ s → splitLines (crlf s) = splitLines s                              (splitLines_crlf)

A carriage return is white space, so trimming does not see one at the end of a line.  `UpToReturn`
relates a line without carriage returns to itself and to itself with one at its end, and lists of
lines that are so related give the same text once carriage returns are taken away
(`withoutReturns_ofLines`).  Texts whose lines are so related, the last one being the same, differ
in their line endings only (`SameButReturns`):

    '\r' ∉ s → SameButReturns s (crlf s)                                  (sameButReturns_crlf)
    SameButReturns s s' → withoutReturns s' = s                              (withoutReturns_eq)
-/

namespace KvMarkup.Text

/-- The characters without carriage returns. -/
def dropReturns (cs : List Char) : List Char := cs.filter (· != '\r')

/-- The text without carriage returns. -/
def withoutReturns (text : String) : String := String.ofList (dropReturns text.toList)

/-- The characters with a carriage return in front of every line feed. -/
def addReturns (cs : List Char) : List Char :=
  cs.flatMap fun c => if c = '\n' then ['\r', '\n'] else [c]

/-- The text with CR LF for every line feed. -/
def crlf (text : String) : String := String.ofList (addReturns text.toList)

/-- The lines, each but the last with a carriage return at its end. -/
def withReturns : List Line → List Line
  | [] => []
  | [l] => [l]
  | l :: m :: ls => (l ++ ['\r']) :: withReturns (m :: ls)

/-- The first line has no carriage return, and the second is the first or the first with a carriage
return at its end. -/
def UpToReturn (l l' : Line) : Prop := '\r' ∉ l ∧ (l' = l ∨ l' = l ++ ['\r'])

/-- The first text has no carriage return, and the second is the first with carriage returns in
front of some of its line feeds. -/
structure SameButReturns (s s' : String) : Prop where
  lines : List.Forall₂ UpToReturn (lines s) (Text.lines s')
  last : (Text.lines s').getLast? = (Text.lines s).getLast?

/-! ## Adding and dropping carriage returns -/

theorem addReturns_append (xs ys : List Char) :
    addReturns (xs ++ ys) = addReturns xs ++ addReturns ys :=
  List.flatMap_append

theorem addReturns_break (cs : List Char) :
    addReturns ('\n' :: cs) = '\r' :: '\n' :: addReturns cs := rfl

theorem addReturns_cons {c : Char} (h : c ≠ '\n') (cs : List Char) :
    addReturns (c :: cs) = c :: addReturns cs := by
  simp [addReturns, h]

theorem dropReturns_append (xs ys : List Char) :
    dropReturns (xs ++ ys) = dropReturns xs ++ dropReturns ys :=
  List.filter_append xs ys

theorem dropReturns_eq_self {cs : List Char} (h : '\r' ∉ cs) : dropReturns cs = cs := by
  rw [dropReturns, List.filter_eq_self]
  intro c hc
  rw [bne_iff_ne]
  rintro rfl
  exact h hc

theorem dropReturns_addReturns {cs : List Char} (h : '\r' ∉ cs) :
    dropReturns (addReturns cs) = cs := by
  induction cs with
  | nil => rfl
  | cons c cs ih =>
    rw [List.mem_cons, not_or] at h
    by_cases hc : c = '\n'
    · subst hc
      rw [addReturns_break]
      show '\n' :: dropReturns (addReturns cs) = '\n' :: cs
      rw [ih h.2]
    · rw [addReturns_cons hc, dropReturns, List.filter_cons_of_pos (by simpa using Ne.symm h.1)]
      exact congrArg (c :: ·) (ih h.2)

theorem dropReturns_intercalate (ls : List Line) :
    dropReturns (['\n'].intercalate ls) = ['\n'].intercalate (ls.map dropReturns) := by
  induction ls with
  | nil => rfl
  | cons l ls ih =>
    cases ls with
    | nil => simp
    | cons m ls =>
      rw [List.intercalate_cons_cons, dropReturns_append, dropReturns_append, ih]
      simp only [List.map_cons, List.intercalate_cons_cons]
      rfl

/-! ## The lines of a text with CR LF -/

theorem withReturns_modifyHead (c : Char) (ls : List Line) :
    withReturns (ls.modifyHead (List.cons c)) = (withReturns ls).modifyHead (List.cons c) := by
  match ls with
  | [] => rfl
  | [_] => rfl
  | _ :: _ :: _ => rfl

theorem withReturns_nil_cons {ls : List Line} (h : ls ≠ []) :
    withReturns ([] :: ls) = ['\r'] :: withReturns ls := by
  obtain ⟨l, ls, rfl⟩ := List.exists_cons_of_ne_nil h
  rfl

theorem splitOn_break (cs : List Char) : ('\n' :: cs).splitOn '\n' = [] :: cs.splitOn '\n' := by
  rw [List.splitOn_cons_eq_if_modifyHead, if_pos (by rfl)]

theorem splitOn_cons {c : Char} (h : c ≠ '\n') (cs : List Char) :
    (c :: cs).splitOn '\n' = (cs.splitOn '\n').modifyHead (List.cons c) := by
  rw [List.splitOn_cons_eq_if_modifyHead, if_neg (by simpa using h)]

theorem splitOn_addReturns (cs : List Char) :
    (addReturns cs).splitOn '\n' = withReturns (cs.splitOn '\n') := by
  induction cs with
  | nil => rfl
  | cons c cs ih =>
    by_cases hc : c = '\n'
    · subst hc
      rw [addReturns_break, splitOn_break, withReturns_nil_cons (List.splitOn_ne_nil _ _),
        splitOn_cons (by decide), splitOn_break, ih]
      rfl
    · rw [addReturns_cons hc, splitOn_cons hc, splitOn_cons hc, ih, withReturns_modifyHead]

theorem lines_crlf (s : String) : lines (crlf s) = withReturns (lines s) := by
  rw [lines, crlf, String.toList_ofList, splitOn_addReturns, lines]

theorem forall₂_withReturns {ls : List Line} (h : ∀ l ∈ ls, '\r' ∉ l) :
    List.Forall₂ UpToReturn ls (withReturns ls) := by
  induction ls with
  | nil => exact .nil
  | cons l ls ih =>
    have hl := h l List.mem_cons_self
    have hls := ih fun m hm => h m (List.mem_cons_of_mem _ hm)
    cases ls with
    | nil => exact .cons ⟨hl, .inl rfl⟩ .nil
    | cons m ls => exact .cons ⟨hl, .inr rfl⟩ hls

theorem getLast?_withReturns (ls : List Line) : (withReturns ls).getLast? = ls.getLast? := by
  induction ls with
  | nil => rfl
  | cons l ls ih =>
    cases ls with
    | nil => rfl
    | cons m ls =>
      have hne : withReturns (m :: ls) ≠ [] := by
        cases ls <;> exact List.cons_ne_nil _ _
      obtain ⟨k, ks, hk⟩ := List.exists_cons_of_ne_nil hne
      rw [withReturns, hk, List.getLast?_cons_cons, List.getLast?_cons_cons, ← hk, ih]

theorem forall₂_refl {ls : List Line} (h : ∀ l ∈ ls, '\r' ∉ l) :
    List.Forall₂ UpToReturn ls ls :=
  List.forall₂_same.mpr fun l hl => ⟨h l hl, .inl rfl⟩

theorem subset_of_mem_splitOn {cs : List Char} {l : Line} (hl : l ∈ cs.splitOn '\n') : l ⊆ cs := by
  induction cs generalizing l with
  | nil => simp_all
  | cons c cs ih =>
    by_cases hc : c = '\n'
    · subst hc
      rw [splitOn_break] at hl
      rcases List.mem_cons.mp hl with rfl | hl
      · exact List.nil_subset _
      · exact List.subset_cons_of_subset _ (ih hl)
    · obtain ⟨p, ps, hp⟩ := List.exists_cons_of_ne_nil (List.splitOn_ne_nil '\n' cs)
      rw [splitOn_cons hc, hp, List.modifyHead_cons] at hl
      rw [hp] at ih
      rcases List.mem_cons.mp hl with rfl | hl
      · exact List.cons_subset_cons c (ih List.mem_cons_self)
      · exact List.subset_cons_of_subset _ (ih (List.mem_cons_of_mem _ hl))

theorem not_mem_of_mem_lines {s : String} (h : '\r' ∉ s.toList) : ∀ l ∈ lines s, '\r' ∉ l :=
  fun _ hl hc => h (subset_of_mem_splitOn hl hc)

theorem sameButReturns_crlf {s : String} (h : '\r' ∉ s.toList) : SameButReturns s (crlf s) := by
  refine ⟨?_, ?_⟩
  · rw [lines_crlf]
    exact forall₂_withReturns (not_mem_of_mem_lines h)
  · rw [lines_crlf, getLast?_withReturns]

theorem splitBreaks_cons_congr {c : Char} (hr : c ≠ '\r') (hn : c ≠ '\n') {cs ds : List Char}
    (h : splitBreaks cs = splitBreaks ds) : splitBreaks (c :: cs) = splitBreaks (c :: ds) := by
  rw [splitBreaks.eq_5 c cs (fun _ hc => absurd hc hr) hr hn,
    splitBreaks.eq_5 c ds (fun _ hc => absurd hc hr) hr hn, h]

/-- Cutting at every kind of line break gives the same lines. -/
theorem splitBreaks_addReturns {cs : List Char} (h : '\r' ∉ cs) :
    splitBreaks (addReturns cs) = splitBreaks cs := by
  induction cs with
  | nil => rfl
  | cons c cs ih =>
    rw [List.mem_cons, not_or] at h
    by_cases hc : c = '\n'
    · subst hc
      show [] :: splitBreaks (addReturns cs) = [] :: splitBreaks cs
      rw [ih h.2]
    · rw [addReturns_cons hc]
      exact splitBreaks_cons_congr (Ne.symm h.1) hc (ih h.2)

theorem splitLines_crlf {s : String} (h : '\r' ∉ s.toList) :
    splitLines (crlf s) = splitLines s := by
  rw [splitLines, crlf, String.toList_ofList, splitBreaks_addReturns h, splitLines]

/-! ## A carriage return at the end of a line -/

theorem isSpace_return : isSpace '\r' = true := by decide

theorem isBlank_append_return (l : Line) : isBlank (l ++ ['\r']) = isBlank l := by
  simp [isBlank, isSpace_return]

theorem trimEnd_append_return (l : Line) : trimEnd (l ++ ['\r']) = trimEnd l :=
  trimEnd_append_of_blank l (by decide)

/-- White space stays white space, so a text ends where it ended. -/
theorem trimEnd_addReturns (cs : List Char) : trimEnd (addReturns cs) = addReturns (trimEnd cs) := by
  induction cs using List.reverseRecOn with
  | nil => rfl
  | append_singleton cs c ih =>
    rw [addReturns_append]
    by_cases hn : c = '\n'
    · subst hn
      have hbreak : isBlank (addReturns ['\n']) = true := by decide
      rw [trimEnd_append_of_blank _ hbreak, trimEnd_append_of_blank _ (by decide), ih]
    · have hone : addReturns [c] = [c] := addReturns_cons hn []
      rw [hone]
      cases hc : isSpace c with
      | true =>
        have hblank : isBlank [c] = true := by simp [isBlank, hc]
        rw [trimEnd_append_of_blank _ hblank, trimEnd_append_of_blank _ hblank, ih]
      | false =>
        rw [trimEnd_eq_rdropWhile, trimEnd_eq_rdropWhile,
          List.rdropWhile_concat_neg _ _ _ (by simp [hc]),
          List.rdropWhile_concat_neg _ _ _ (by simp [hc]), addReturns_append, hone]

theorem trimStart_eq_nil {l : Line} (h : isBlank l = true) : trimStart l = [] :=
  (dropWhile_isSpace_eq_nil_iff l).mpr h

theorem trimStart_ne_nil {l : Line} (h : isBlank l = false) : trimStart l ≠ [] := by
  rw [trimStart, Ne, dropWhile_isSpace_eq_nil_iff, h]
  exact Bool.false_ne_true

theorem trimStart_append_return {l : Line} (h : isBlank l = false) :
    trimStart (l ++ ['\r']) = trimStart l ++ ['\r'] := by
  have hne := trimStart_ne_nil h
  rw [trimStart] at hne
  rw [trimStart, List.dropWhile_append, if_neg (by simpa using hne), trimStart]

theorem trim_append_return (l : Line) : trim (l ++ ['\r']) = trim l :=
  trim_append_of_blank l (by decide)

/-- What a line begins with goes up to a character that stops it, or through the whole line. -/
theorem takeWhile_append_return {p : Char → Bool} (hp : p '\r' = false) (l : Line) :
    (l ++ ['\r']).takeWhile p = l.takeWhile p := by
  rw [List.takeWhile_append, List.takeWhile_cons_of_neg (by simp [hp]), List.append_nil]
  split
  · next h => exact ((List.takeWhile_prefix p).eq_of_length h).symm
  · rfl

theorem leadingBlanks_append_return (l : Line) : leadingBlanks (l ++ ['\r']) = leadingBlanks l := by
  rw [leadingBlanks, takeWhile_append_return (by decide), leadingBlanks]

theorem leadingSpace_append_return {l : Line} (h : isBlank l = false) :
    leadingSpace (l ++ ['\r']) = leadingSpace l := by
  have h1 := leadingSpace_add_trimStart l
  have h2 := leadingSpace_add_trimStart (l ++ ['\r'])
  rw [trimStart_append_return h, List.length_append, List.length_append] at h2
  omega

/-! ## Lines up to a carriage return -/

theorem UpToReturn.congr {β : Type} {f : Line → β} (hf : ∀ l, f (l ++ ['\r']) = f l) {l l' : Line}
    (h : UpToReturn l l') : f l' = f l := by
  rcases h.2 with rfl | rfl
  · rfl
  · exact hf l

section
variable {ls ls' : List Line} (h : List.Forall₂ UpToReturn ls ls')
include h

theorem map_eq_of_upToReturn {β : Type} {f : Line → β} (hf : ∀ l, f (l ++ ['\r']) = f l) :
    ls'.map f = ls.map f := by
  induction h with
  | nil => rfl
  | cons hl _ ih => rw [List.map_cons, List.map_cons, ih, hl.congr hf]

/-- A line is there in both or in neither. -/
theorem getElem?_upToReturn (k : Nat) : (ls[k]? = none ∧ ls'[k]? = none) ∨
    ∃ l l', ls[k]? = some l ∧ ls'[k]? = some l' ∧ UpToReturn l l' := by
  induction h generalizing k with
  | nil => exact .inl ⟨rfl, rfl⟩
  | @cons l l' _ _ hl _ ih =>
    cases k with
    | zero => exact .inr ⟨l, l', rfl, rfl, hl⟩
    | succ k => exact ih k

theorem getElem?_bind_eq_of_upToReturn {β : Type} {f : Line → Option β}
    (hf : ∀ l, f (l ++ ['\r']) = f l) (k : Nat) : ls'[k]?.bind f = ls[k]?.bind f := by
  rcases getElem?_upToReturn h k with ⟨h1, h2⟩ | ⟨l, l', h1, h2, hl⟩
  · rw [h1, h2]
  · rw [h1, h2]
    exact hl.congr hf

theorem isEmpty_eq_of_upToReturn : ls'.isEmpty = ls.isEmpty := by
  cases h <;> rfl

theorem filter_upToReturn {p : Line → Bool} (hp : ∀ l, p (l ++ ['\r']) = p l) :
    List.Forall₂ UpToReturn (ls.filter p) (ls'.filter p) := by
  induction h with
  | nil => exact .nil
  | cons hl _ ih =>
    rw [List.filter_cons, List.filter_cons, hl.congr hp]
    split
    · exact .cons hl ih
    · exact ih

theorem takeWhile_upToReturn {p : Line → Bool} (hp : ∀ l, p (l ++ ['\r']) = p l) :
    List.Forall₂ UpToReturn (ls.takeWhile p) (ls'.takeWhile p) := by
  induction h with
  | nil => exact .nil
  | cons hl _ ih =>
    rw [List.takeWhile_cons, List.takeWhile_cons, hl.congr hp]
    split
    · exact .cons hl ih
    · exact .nil

theorem not_mem_of_upToReturn : ∀ l ∈ ls, '\r' ∉ l := by
  induction h with
  | nil => exact fun _ hl => absurd hl List.not_mem_nil
  | cons hl _ ih =>
    intro m hm
    rcases List.mem_cons.mp hm with rfl | hm
    · exact hl.1
    · exact ih m hm

/-- The text of lines with carriage returns is that of the lines without them, once the carriage
returns are taken away. -/
theorem withoutReturns_ofLines : withoutReturns (ofLines ls') = ofLines ls := by
  have hone : ∀ l, dropReturns (l ++ ['\r']) = dropReturns l := fun l => by
    rw [dropReturns_append]
    exact List.append_nil _
  have hmap : ls'.map dropReturns = ls := by
    calc ls'.map dropReturns = ls.map dropReturns := map_eq_of_upToReturn h hone
      _ = ls.map id :=
        List.map_congr_left fun l hl => dropReturns_eq_self (not_mem_of_upToReturn h l hl)
      _ = ls := List.map_id ls
  rw [withoutReturns, ofLines, String.toList_ofList, dropReturns_intercalate, hmap, ofLines]

end

theorem SameButReturns.withoutReturns_eq {s s' : String} (h : SameButReturns s s') :
    withoutReturns s' = s := by
  rw [← ofLines_lines s', withoutReturns_ofLines h.lines, ofLines_lines]

end KvMarkup.Text

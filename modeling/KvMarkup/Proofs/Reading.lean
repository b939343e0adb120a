import KvMarkup.Color.Literal
import KvMarkup.Completion.Provider
import KvMarkup.Proofs.Edit.Host
import KvMarkup.Proofs.Edit.LineEnding
import KvMarkup.Proofs.Hint.Placement

/-!
# Reading texts with other line endings

What is read off a text does not depend on its line endings.  Completion cuts a text at every kind
of line break and so never sees a carriage return.  The others cut at line feeds only, and each
looks at a line in a way that does not show a carriage return at its end:

* a hint stands behind what is left of the line without white space at its end;
* a colour literal is trimmed on both sides, and its place counts from the front;
* the name of a header ends with its colon, and whether a line belongs to a block depends on the
  white space in front of it, unless it is blank.

Only the code of a block has the carriage returns of its lines.
-/

namespace KvMarkup

open KvMarkup.Text KvMarkup.Outline

/-! ## Hints -/

namespace Hint

theorem hintCharacter?_append_return (l : Line) :
    hintCharacter? (l ++ ['\r']) = hintCharacter? l := by
  by_cases h : ':' ∈ l
  · obtain ⟨xs, ys, rfl, hxs⟩ := List.eq_append_cons_of_mem h
    have hend := trimEnd_append_return (xs ++ ':' :: ys)
    rw [List.append_assoc, List.cons_append] at hend ⊢
    rw [hintCharacter?_of_colon hxs, hintCharacter?_of_colon hxs, isBlank_append_return, hend]
  · rw [hintCharacter?, if_neg (by simpa using h), hintCharacter?, if_neg (by simpa using h)]

section
variable {ls ls' : List Line}

theorem hintOn_eq_of_upToReturn (h : List.Forall₂ UpToReturn ls ls') : hintOn ls' = hintOn ls := by
  funext line type
  unfold hintOn lineAt?
  split
  · rfl
  · apply getElem?_bind_eq_of_upToReturn h
    intro l
    rw [hintCharacter?_append_return]

-- The lines are looked at for the hint of a type on a line only.
mutual
theorem hintsOf_congr (h : hintOn ls' = hintOn ls) :
    (n : Node String Int) → hintsOf ls' n = hintsOf ls n
  | ⟨_, _, _, _, _, children⟩ => by rw [hintsOf, hintsOf, h, hintsBelow_congr h children]
theorem hintsBelow_congr (h : hintOn ls' = hintOn ls) :
    (ns : List (Node String Int)) → hintsBelow ls' ns = hintsBelow ls ns
  | [] => rfl
  | n :: ns => by rw [hintsBelow, hintsBelow, hintsOf_congr h n, hintsBelow_congr h ns]
end

end

theorem uncheckedHints_upToReturn {s s' : String} (h : SameButReturns s s')
    (symbols : List UncheckedNode) : uncheckedHints symbols s' = uncheckedHints symbols s := by
  have hbelow : hintsBelow (lines s') = hintsBelow (lines s) :=
    funext (hintsBelow_congr (hintOn_eq_of_upToReturn h.lines))
  unfold uncheckedHints
  simp only
  rw [← h.lines.length_eq, hbelow]

end Hint

/-! ## Colour literals -/

namespace Color

theorem parse?_append_return (rounding : Rounding) (l : Line) :
    parse? rounding (l ++ ['\r']) = parse? rounding l := by
  rw [parse?, trim_append_return, parse?]

section
variable {rounding : Rounding} {ls ls' : List Line}

theorem swatchOn?_eq_of_upToReturn (h : List.Forall₂ UpToReturn ls ls') :
    swatchOn? rounding ls' = swatchOn? rounding ls := by
  funext line
  unfold swatchOn?
  split
  · rfl
  · apply getElem?_bind_eq_of_upToReturn h
    intro l
    by_cases hl : ':' ∈ l
    · obtain ⟨xs, ys, rfl, hxs⟩ := List.eq_append_cons_of_mem hl
      rw [List.append_assoc, List.cons_append, if_neg (by simp), if_neg (by simp)]
      simp only [takeWhile_before hxs, drop_behind]
      cases hb : isBlank ys with
      | true =>
        -- nothing is behind the colon, so there is no colour
        rw [trimStart_eq_nil hb, trimStart_eq_nil ((isBlank_append_return ys).trans hb)]
        rfl
      | false =>
        rw [trimStart_append_return hb, parse?_append_return, trimEnd_append_return,
          List.length_append, List.length_append, Nat.add_sub_add_right]
    · rw [if_pos (by simpa using hl), if_pos (by simpa using hl)]

mutual
theorem swatchesOf_congr (h : swatchOn? rounding ls' = swatchOn? rounding ls) :
    (n : Node String Int) → swatchesOf rounding ls' n = swatchesOf rounding ls n
  | ⟨_, _, _, _, _, children⟩ => by rw [swatchesOf, swatchesOf, h, swatchesBelow_congr h children]
theorem swatchesBelow_congr (h : swatchOn? rounding ls' = swatchOn? rounding ls) :
    (ns : List (Node String Int)) → swatchesBelow rounding ls' ns = swatchesBelow rounding ls ns
  | [] => rfl
  | n :: ns => by
    rw [swatchesBelow, swatchesBelow, swatchesOf_congr h n, swatchesBelow_congr h ns]
end

end

theorem uncheckedSwatches_upToReturn {s s' : String} (h : SameButReturns s s')
    (rounding : Rounding) (symbols : List UncheckedNode) :
    uncheckedSwatches rounding symbols s' = uncheckedSwatches rounding symbols s := by
  have hbelow : swatchesBelow rounding (lines s') = swatchesBelow rounding (lines s) :=
    funext (swatchesBelow_congr (swatchOn?_eq_of_upToReturn h.lines))
  unfold uncheckedSwatches
  simp only
  rw [← h.lines.length_eq, hbelow]

end Color

/-! ## Blocks -/

namespace Edit

/-- The block without the carriage returns in its code. -/
def Block.withoutReturns (b : Block) : Block := { b with code := Text.withoutReturns b.code }

theorem headerName?_append_return (l : Line) : headerName? (l ++ ['\r']) = headerName? l := by
  cases hb : isBlank l with
  | true =>
    rw [headerName?, headerName?, trimStart_eq_nil hb,
      trimStart_eq_nil ((isBlank_append_return l).trans hb)]
  | false =>
    obtain ⟨c, rest, hc⟩ := List.exists_cons_of_ne_nil (trimStart_ne_nil hb)
    have hcolon : (((rest ++ ['\r']).dropWhile isWord).head? == some ':') =
        ((rest.dropWhile isWord).head? == some ':') := by
      rw [List.dropWhile_append]
      split
      · next he =>
        rw [List.isEmpty_iff.mp he]
        decide
      · next he =>
        rw [List.head?_append_of_ne_nil _ (by simpa using he)]
    rw [headerName?, headerName?, trimStart_append_return hb, hc, List.cons_append]
    simp only
    rw [hcolon, takeWhile_append_return (by decide)]

theorem continues_append_return (indent : Nat) (l : Line) :
    continues indent (l ++ ['\r']) = continues indent l := by
  rw [continues, continues, isBlank_append_return]
  cases hb : isBlank l with
  | true => rfl
  | false => rw [leadingSpace_append_return hb]

section
variable {ls ls' : List Line} (h : List.Forall₂ UpToReturn ls ls')
include h

theorem owned_upToReturn (indent : Nat) :
    List.Forall₂ UpToReturn (owned indent ls) (owned indent ls') :=
  takeWhile_upToReturn h (continues_append_return indent)

theorem below_upToReturn (indent : Nat) :
    List.Forall₂ UpToReturn (below indent ls) (below indent ls') :=
  content_upToReturn (owned_upToReturn h indent)

theorem span_eq_of_upToReturn : span ls' = span ls := by
  have hspan : ∀ ms : List Line, span ms = ((ms.map isBlank).rdropWhile id).length := by
    intro ms
    rw [span, List.rdropWhile, List.rdropWhile, ← List.map_reverse, List.dropWhile_map]
    simp
  rw [hspan, hspan, map_eq_of_upToReturn h isBlank_append_return]

end

theorem blockOf_upToReturn {header header' : Line} {under under' : List Line}
    (hl : UpToReturn header header') (hb : isBlank header = false)
    (hu : List.Forall₂ UpToReturn under under') (row : Nat) (name : Line) :
    (blockOf row name header' under').withoutReturns = blockOf row name header under := by
  have hindent : leadingSpace header' = leadingSpace header := by
    rcases hl.2 with rfl | rfl
    · rfl
    · exact leadingSpace_append_return hb
  have hbelow := below_upToReturn hu (leadingSpace header)
  unfold blockOf Block.withoutReturns
  simp only
  rw [hindent, withoutReturns_ofLines (.cons hl hbelow), ← hbelow.length_eq,
    span_eq_of_upToReturn (owned_upToReturn hu (leadingSpace header))]

/-- The block on a line, in terms of the line and of those under it. -/
theorem blockAt?_eq_bind (text : String) (row : Nat) :
    blockAt? text row = (lines text)[row]?.bind fun header =>
      (headerName? header).map fun name =>
        blockOf row name header ((lines text).drop (row + 1)) := by
  cases hrow : (lines text)[row]? with
  | none => simp [blockAt?, hrow]
  | some header =>
    cases hn : headerName? header with
    | none => simp [blockAt?, hrow, hn]
    | some name =>
      obtain ⟨hsplit, hlen⟩ := eq_take_cons_drop hrow
      have hblock := blockAt?_eq hsplit hn
      rw [hlen] at hblock
      rw [hblock, Option.bind_some, hn, Option.map_some]

theorem blockAt?_upToReturn {s s' : String} (h : SameButReturns s s') (line : Int) :
    (blockAt? s' line).map Block.withoutReturns = blockAt? s line := by
  by_cases hneg : line < 0
  · rw [blockAt?, if_pos hneg, blockAt?, if_pos hneg]
    rfl
  · obtain ⟨row, rfl⟩ := Int.eq_ofNat_of_zero_le (Int.not_lt.mp hneg)
    have hunder := List.forall₂_drop (row + 1) h.lines
    rw [blockAt?_eq_bind, blockAt?_eq_bind]
    rcases getElem?_upToReturn h.lines row with ⟨h1, h2⟩ | ⟨header, header', h1, h2, hl⟩
    · rw [h1, h2]
      rfl
    · rw [h1, h2, Option.bind_some, Option.bind_some, hl.congr headerName?_append_return]
      cases hn : headerName? header with
      | none => rfl
      | some name =>
        have hblock := blockOf_upToReturn hl (not_blank_of_headerName? hn) hunder row name
        exact congrArg some hblock

end Edit

/-! ## Texts with CR LF -/

namespace Text

/-- **Reading does not see line endings.**  Completions, hints and colour literals of a text with
CR LF for its line feeds are those of the text, and so are its blocks but for the carriage returns in
their code. -/
theorem reading_ignores_returns {text : String} (h : '\r' ∉ text.toList) :
    (∀ catalog line character, Completion.complete catalog (crlf text) line character =
      Completion.complete catalog text line character) ∧
    (∀ symbols, Hint.uncheckedHints symbols (crlf text) = Hint.uncheckedHints symbols text) ∧
    (∀ rounding symbols, Color.uncheckedSwatches rounding symbols (crlf text) =
      Color.uncheckedSwatches rounding symbols text) ∧
    ∀ line, (Edit.blockAt? (crlf text) line).map Edit.Block.withoutReturns =
      Edit.blockAt? text line := by
  have hsame := sameButReturns_crlf h
  refine ⟨?_, ?_, ?_, ?_⟩
  · intro catalog line character
    rw [Completion.complete, splitLines_crlf h, Completion.complete]
  · exact Hint.uncheckedHints_upToReturn hsame
  · exact Color.uncheckedSwatches_upToReturn hsame
  · exact Edit.blockAt?_upToReturn hsame

/-! ## A widget with a colour -/

def painted : String := "Root:
    color: 1, 0, 0
"

/-- The property on the second line. -/
def paintedProperty : UncheckedNode :=
  ⟨.str "color", .property, Span.onLine (.int 2) 5 5, Span.onLine (.int 2) 5 5,
    some "ColorProperty", []⟩

def paintedRoot : UncheckedNode :=
  ⟨.str "Root", .widget, Span.onLine (.int 1) 1 4, Span.onLine (.int 1) 1 4, none,
    [paintedProperty]⟩

theorem reading_ignores_returns_painted :
    '\r' ∉ painted.toList ∧ crlf painted = "Root:\r\n    color: 1, 0, 0\r\n" ∧
      Hint.uncheckedHints [paintedRoot] (crlf painted) = .ok [⟨1, 18, " ColorProperty"⟩] ∧
      Color.uncheckedSwatches Color.exact [paintedRoot] (crlf painted) =
        .ok [⟨1, 11, 18, ⟨1, 0, 0, 1⟩⟩] ∧
      (Edit.blockAt? (crlf painted) 0).map Edit.Block.withoutReturns =
        some ⟨"Root", "Root:\n    color: 1, 0, 0", 0, 1, 2⟩ := by
  have h : '\r' ∉ painted.toList := by decide
  obtain ⟨-, hhints, hswatches, hblock⟩ := reading_ignores_returns h
  refine ⟨h, by decide, ?_, ?_, ?_⟩
  · rw [hhints]
    rfl
  · rw [hswatches]
    rfl
  · rw [hblock]
    decide

end Text

end KvMarkup

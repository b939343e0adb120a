import KvMarkup.Color.Literal
import KvMarkup.Proofs.Outline.Listing
import KvMarkup.Proofs.Text.Lines
import KvMarkup.Proofs.Text.Trim

/-!
# Every colour literal and its place

A line is split at its first colon and the text behind the colon at the white space around it:

    before ++ ':' :: (margin ++ (trim after ++ tail))

The literal is what is left, so its place between two characters of the line holds exactly the text
that is parsed (`take_drop_literal`).  Reading a colour trims its text, so what the place holds has
the colour as well (`parse?_trim`).

The literals of a document are what a walk finds that skips nothing.  They list one literal for each
property with a colour that stands on a line where one follows the first colon (`swatches_exact`),
and an unchecked outline with names and lines of the right types gives the same
(`uncheckedSwatches_ofTyped`).
-/

namespace KvMarkup.Color

open KvMarkup.Text KvMarkup.Outline

variable {rounding : Rounding}

/-! ## The text of a literal -/

theorem parse?_trim (rounding : Rounding) (l : Line) :
    parse? rounding (trim l) = parse? rounding l := by
  unfold parse?
  rw [trim_trim]

theorem parse?_trimStart (rounding : Rounding) (l : Line) :
    parse? rounding (trimStart l) = parse? rounding l := by
  unfold parse?
  rw [trim_trimStart]

/-- A colour has a text. -/
theorem trim_ne_nil_of_parse? {l : Line} {c : Rgba Rat} (h : parse? rounding l = some c) :
    trim l ≠ [] := by
  intro hnil
  rw [← parse?_trim, hnil] at h
  cases h

/-! ## Its place on a line -/

/-- The text behind the colon without the white space around it, where it stands on the line. -/
theorem take_drop_literal {l before after : Line} {start stop : Nat}
    (hl : l = before ++ ':' :: after) (hstart : start = before.length + 1 + leadingSpace after)
    (hstop : stop = start + (trim after).length) :
    stop ≤ l.length ∧ (l.take stop).drop start = trim after := by
  obtain ⟨margin, tail, hafter, hmargin, -, -⟩ := exists_eq_append_trim after
  have hfront : (before ++ ':' :: margin).length = start := by
    rw [List.length_append, List.length_cons]
    omega
  have hsplit : l = (before ++ ':' :: margin) ++ (trim after ++ tail) := by
    rw [hl]
    conv_lhs => rw [hafter]
    simp
  rw [hsplit, hstop, ← hfront]
  constructor
  · simp only [List.length_append]
    omega
  · rw [List.drop_take, List.drop_left, Nat.add_sub_cancel_left, List.take_left]

theorem swatchOn?_of_colon {ls : List Line} {line : Int} {before after : Line} (hline : 1 ≤ line)
    (hl : ls[(line - 1).toNat]? = some (before ++ ':' :: after)) (h : ':' ∉ before) :
    swatchOn? rounding ls line = (parse? rounding after).map fun color =>
      ⟨line - 1, before.length + 1 + leadingSpace after,
        before.length + 1 + leadingSpace after + (trim after).length, color⟩ := by
  have hmargin : after.length - (trimStart after).length = leadingSpace after := by
    have := leadingSpace_add_trimStart after
    omega
  unfold swatchOn?
  rw [if_neg (by omega), hl]
  show (if _ then _ else _) = _
  rw [if_neg (by simp)]
  simp only [takeWhile_before h, drop_behind]
  rw [hmargin, parse?_trimStart]
  cases parse? rounding after <;> rfl

theorem swatchOn?_of_no_colon {ls : List Line} {line : Int} {l : Line}
    (hl : ls[(line - 1).toNat]? = some l) (h : ':' ∉ l) : swatchOn? rounding ls line = none := by
  unfold swatchOn?
  split
  · rfl
  · rw [hl]
    show (if _ then _ else _) = _
    rw [if_pos (by simpa using h)]

/-- The literal behind the first colon of the line that a node stands on. -/
theorem swatchOn?_eq_some_iff {n : Node String Int} {text : String} {w : Swatch} :
    swatchOn? rounding (lines text) n.line = some w ↔
      ∃ l before after, n.StandsOn text l ∧ l = before ++ ':' :: after ∧ ':' ∉ before ∧
        parse? rounding after = some w.color ∧ w.line = n.line - 1 ∧
        w.start = before.length + 1 + leadingSpace after ∧
        w.stop = w.start + (trim after).length := by
  constructor
  · intro h
    have hline : 1 ≤ n.line := by
      by_contra hlt
      rw [swatchOn?, if_pos (by omega)] at h
      cases h
    cases hl : (lines text)[(n.line - 1).toNat]? with
    | none =>
      rw [swatchOn?, if_neg (by omega), hl] at h
      cases h
    | some l =>
      by_cases hcolon : ':' ∈ l
      · obtain ⟨before, after, rfl, hbefore⟩ := List.eq_append_cons_of_mem hcolon
        rw [swatchOn?_of_colon hline hl hbefore] at h
        obtain ⟨color, hcolor, rfl⟩ := Option.map_eq_some_iff.mp h
        exact ⟨_, before, after, ⟨hline, hl⟩, rfl, hbefore, hcolor, rfl, rfl, rfl⟩
      · rw [swatchOn?_of_no_colon hl hcolon] at h
        cases h
  · rintro ⟨_, before, after, ⟨hline, hl⟩, rfl, hbefore, hcolor, h1, h2, h3⟩
    rw [swatchOn?_of_colon hline hl hbefore, hcolor]
    cases w
    dsimp only at h1 h2 h3
    subst h1 h2 h3
    rfl

/-! ## The walk -/

/-- The literal that a node has by itself. -/
def ownSwatch (rounding : Rounding) (ls : List Line) (n : Node String Int) : Option Swatch :=
  if holdsColor n.kind n.detail then swatchOn? rounding ls n.line else none

theorem holdsColor_iff {kind : Kind} {detail : Option String} :
    holdsColor kind detail = true ↔
      kind = .property ∧ (detail = some "ColorProperty" ∨ detail = some "color") := by
  unfold holdsColor colorDetails
  cases detail with
  | none => simp
  | some detail => simp

theorem ownSwatch_eq_some_iff {ls : List Line} {n : Node String Int} {w : Swatch} :
    ownSwatch rounding ls n = some w ↔
      (n.kind = .property ∧ (n.detail = some "ColorProperty" ∨ n.detail = some "color")) ∧
        swatchOn? rounding ls n.line = some w := by
  unfold ownSwatch
  rw [← holdsColor_iff]
  split
  · next h => simp [h]
  · next h => simp [h]

theorem swatchesBelow_eq_flatMap (rounding : Rounding) (ls : List Line)
    (ns : List (Node String Int)) :
    swatchesBelow rounding ls ns = ns.flatMap (swatchesOf rounding ls) := by
  induction ns with
  | nil => rfl
  | cons n ns ih => rw [swatchesBelow, ih, List.flatMap_cons]

theorem swatchesOf_eq (rounding : Rounding) (ls : List Line) (n : Node String Int) :
    swatchesOf rounding ls n = if (fun _ => false) n then []
      else (ownSwatch rounding ls n).toList ++ n.children.flatMap (swatchesOf rounding ls) := by
  obtain ⟨name, kind, range, selection, detail, children⟩ := n
  rw [swatchesOf, swatchesBelow_eq_flatMap, if_neg Bool.false_ne_true]
  congr 1
  unfold ownSwatch Node.line
  split <;> rfl

/-! ## Unchecked outlines -/

mutual
theorem swatchesOf_typed (rounding : Rounding) (ls : List Line) :
    (n : Node String Int) → ∃ n', typed ls.length (ofTyped n) = .ok n' ∧
      swatchesOf rounding ls n' = swatchesOf rounding ls n
  | ⟨name, kind, range, selection, detail, children⟩ => by
    obtain ⟨children', hchildren, hbelow⟩ := swatchesBelow_typedAll rounding ls children
    rw [ofTyped, Node.map, typed, hchildren]
    cases hcolor : holdsColor kind detail with
    | true =>
      refine ⟨_, rfl, ?_⟩
      rw [swatchesOf, swatchesOf, hbelow]
      rfl
    | false =>
      refine ⟨_, rfl, ?_⟩
      rw [swatchesOf, swatchesOf, hbelow, hcolor]
      rfl
theorem swatchesBelow_typedAll (rounding : Rounding) (ls : List Line) :
    (ns : List (Node String Int)) →
    ∃ ns', typedAll ls.length (Node.mapAll .str .int ns) = .ok ns' ∧
      swatchesBelow rounding ls ns' = swatchesBelow rounding ls ns
  | [] => ⟨[], rfl, rfl⟩
  | n :: ns => by
    obtain ⟨n', hn, hown⟩ := swatchesOf_typed rounding ls n
    obtain ⟨ns', hns, hothers⟩ := swatchesBelow_typedAll rounding ls ns
    refine ⟨n' :: ns', ?_, by rw [swatchesBelow, swatchesBelow, hown, hothers]⟩
    rw [ofTyped] at hn
    rw [Node.mapAll, typedAll, hn, hns]
    rfl
end

/-- A well-typed outline has the same colour literals among the unchecked ones. -/
theorem uncheckedSwatches_ofTyped (rounding : Rounding) (symbols : List (Node String Int))
    (text : String) :
    uncheckedSwatches rounding (symbols.map ofTyped) text =
      .ok (swatches rounding symbols text) := by
  obtain ⟨below, hread, hswatches⟩ :=
    read_below_ofTyped (swatchesBelow_typedAll rounding (lines text)) symbols
  unfold uncheckedSwatches swatches
  simp only
  rw [hread, ← hswatches]
  rfl

/-! ## All literals -/

/-- The colour literal of the node at a position: one below a top-level node, a property with a
colour, on a line where a colour follows the first colon. -/
def HasSwatch (rounding : Rounding) (symbols : List (Node String Int)) (text : String)
    (p : List Nat) (w : Swatch) : Prop :=
  ∃ n l before after, Node.Below (fun _ => false) symbols p n ∧
    (n.kind = .property ∧ (n.detail = some "ColorProperty" ∨ n.detail = some "color")) ∧
    n.StandsOn text l ∧ l = before ++ ':' :: after ∧ ':' ∉ before ∧
    parse? rounding after = some w.color ∧ w.line = n.line - 1 ∧
    w.start = before.length + 1 + leadingSpace after ∧ w.stop = w.start + (trim after).length

theorem lists_swatches (rounding : Rounding) (symbols : List (Node String Int)) (text : String) :
    Lists (HasSwatch rounding symbols text) (swatches rounding symbols text) := by
  have hsame : swatches rounding symbols text =
      symbols.flatMap fun s => s.children.flatMap (swatchesOf rounding (lines text)) := by
    unfold swatches
    simp only [swatchesBelow_eq_flatMap]
  rw [hsame]
  refine (Node.lists_below (swatchesOf_eq rounding (lines text)) symbols).congr ?_
  intro p w
  simp only [ownSwatch_eq_some_iff, swatchOn?_eq_some_iff, HasSwatch, exists_and_left]

/-- **The place of a colour literal holds exactly what was parsed.**  Colour literals are found for
every outline and every text, and list in depth-first order one literal for each property with a
colour that stands on a line where a colour follows the first colon.  The place of each is not empty
and inside its line, holds the text behind the colon without the white space around it, and that text
has the colour. -/
theorem swatches_exact (rounding : Rounding) (symbols : List (Node String Int)) (text : String) :
    ∃ found, uncheckedSwatches rounding (symbols.map ofTyped) text = .ok found ∧
      Lists (HasSwatch rounding symbols text) found ∧
      ∀ w ∈ found, 0 ≤ w.line ∧ ∃ l before after, (lines text)[w.line.toNat]? = some l ∧
        l = before ++ ':' :: after ∧ ':' ∉ before ∧ w.start < w.stop ∧ w.stop ≤ l.length ∧
        (l.take w.stop).drop w.start = trim after ∧
        parse? rounding (trim after) = some w.color := by
  have hlists := lists_swatches rounding symbols text
  refine ⟨_, uncheckedSwatches_ofTyped rounding symbols text, hlists, ?_⟩
  intro w hw
  obtain ⟨p, n, l, before, after, -, -, ⟨hline, hl⟩, hsplit, hbefore, hcolor, hwline, hstart,
    hstop⟩ := hlists.exists_position hw
  obtain ⟨hin, hslice⟩ := take_drop_literal hsplit hstart hstop
  have hpos : 0 < (trim after).length := List.length_pos_iff.mpr (trim_ne_nil_of_parse? hcolor)
  have hparse := (parse?_trim rounding after).trans hcolor
  refine ⟨by omega, l, before, after, ?_, hsplit, hbefore, by omega, hin, hslice, hparse⟩
  rw [hwline, hl]

end KvMarkup.Color

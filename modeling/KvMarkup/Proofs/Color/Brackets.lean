import Mathlib.Data.List.Forall2
import KvMarkup.Color.Literal
import KvMarkup.Proofs.Text.Trim

/-!
# Colours bare and in brackets

The numbers of a colour stand between commas, and white space around them does not matter.  So a
text with a comma in it is read alike with white space around it, in round brackets and in square
ones:

    parse? (margin ++ s ++ tail) = ofParts s                                    (parse?_bare)
    parse? (bracket :: s ++ [bracket]) = ofParts s                          (parse?_bracketed)

What cannot be read as numbers is not read as hexadecimal digits either, since a comma or a bracket
stands in the way.  A part is read as a number when it begins with a `Numeral`: the reader looks for
the longest digits it can take, but all that matters is that there are some
(`leadingDecimal?_isSome_iff`).
-/

namespace KvMarkup.Color

open KvMarkup.Text KvMarkup.Number

/-! ## Numerals -/

/-- Digits of any script, at least one. -/
def Digits (ds : List Char) : Prop := ds ≠ [] ∧ ∀ d ∈ ds, isDigit d = true

/-- A plus, a minus or nothing. -/
def Sign (cs : List Char) : Prop := cs = [] ∨ cs = ['+'] ∨ cs = ['-']

/-- The digits of a number, with a point among them or none. -/
inductive Mantissa : List Char → Prop where
  | whole {ds : List Char} (h : Digits ds) : Mantissa ds
  | pointed {ds fs : List Char} (h : Digits ds) (hf : ∀ d ∈ fs, isDigit d = true) :
      Mantissa (ds ++ '.' :: fs)
  | fraction {fs : List Char} (h : Digits fs) : Mantissa ('.' :: fs)

/-- The exponent of a number, or nothing. -/
inductive Exponent : List Char → Prop where
  | missing : Exponent []
  | marked {e : Char} {sign ds : List Char} (he : e = 'e' ∨ e = 'E') (hs : Sign sign)
      (hd : Digits ds) : Exponent (e :: (sign ++ ds))

/-- A number as it is written. -/
def Numeral (cs : List Char) : Prop :=
  ∃ sign mantissa exponent, Sign sign ∧ Mantissa mantissa ∧ Exponent exponent ∧
    cs = sign ++ (mantissa ++ exponent)

/-- A text that begins with a number. -/
def BeginsWithNumeral (cs : List Char) : Prop := ∃ n rest, Numeral n ∧ cs = n ++ rest

theorem Digits.exists_cons {ds : List Char} (h : Digits ds) :
    ∃ d rest, ds = d :: rest ∧ isDigit d = true := by
  obtain ⟨d, rest, rfl⟩ := List.exists_cons_of_ne_nil h.1
  exact ⟨d, rest, rfl, h.2 d List.mem_cons_self⟩

theorem Mantissa.exists_cons {m : List Char} (h : Mantissa m) :
    ∃ c rest, m = c :: rest ∧ (isDigit c = true ∨ c = '.') := by
  cases h with
  | whole h =>
    obtain ⟨d, rest, rfl, hd⟩ := h.exists_cons
    exact ⟨d, rest, rfl, .inl hd⟩
  | pointed h =>
    obtain ⟨d, rest, rfl, hd⟩ := h.exists_cons
    exact ⟨d, _, rfl, .inl hd⟩
  | fraction => exact ⟨'.', _, rfl, .inr rfl⟩

theorem digits_takeWhile {cs : List Char} (h : cs.takeWhile isDigit ≠ []) :
    Digits (cs.takeWhile isDigit) :=
  ⟨h, List.all_eq_true.mp List.all_takeWhile⟩

theorem leadingUnsigned?_of_digit {negative : Bool} {d : Char} {cs : List Char}
    (hd : isDigit d = true) : (leadingUnsigned? negative (d :: cs)).isSome = true := by
  unfold leadingUnsigned?
  rw [List.takeWhile_cons_of_pos hd]
  rfl

theorem leadingUnsigned?_of_point {negative : Bool} {d : Char} {cs : List Char}
    (hd : isDigit d = true) : (leadingUnsigned? negative ('.' :: d :: cs)).isSome = true := by
  have hpoint : isDigit '.' = false := by decide
  unfold leadingUnsigned?
  simp [hpoint, hd]

/-- An unsigned number is read when there are digits, in front of a point or behind it. -/
theorem leadingUnsigned?_isSome_iff {negative : Bool} {cs : List Char} :
    (leadingUnsigned? negative cs).isSome = true ↔ ∃ m rest, Mantissa m ∧ cs = m ++ rest := by
  constructor
  · intro h
    by_cases hwhole : cs.takeWhile isDigit = []
    · have hrest : cs.dropWhile isDigit = cs := by
        have := List.takeWhile_append_dropWhile (p := isDigit) (l := cs)
        rwa [hwhole, List.nil_append] at this
      unfold leadingUnsigned? at h
      simp only [hwhole, hrest] at h
      split at h
      · next more =>
        have hfraction : more.takeWhile isDigit ≠ [] := by
          intro hnil
          simp [hnil] at h
        refine ⟨_, more.dropWhile isDigit, .fraction (digits_takeWhile hfraction), ?_⟩
        rw [List.cons_append, List.takeWhile_append_dropWhile]
      · simp at h
    · exact ⟨_, _, .whole (digits_takeWhile hwhole), List.takeWhile_append_dropWhile.symm⟩
  · rintro ⟨m, rest, hm, rfl⟩
    cases hm with
    | whole h | pointed h =>
      obtain ⟨d, _, rfl, hd⟩ := h.exists_cons
      exact leadingUnsigned?_of_digit hd
    | fraction h =>
      obtain ⟨d, _, rfl, hd⟩ := h.exists_cons
      exact leadingUnsigned?_of_point hd

/-- Without a sign, a part is read as an unsigned number. -/
theorem leadingDecimal?_of_unsigned {part : List Char}
    (h : ∀ c ∈ (trim part).head?, c ≠ '+' ∧ c ≠ '-') :
    leadingDecimal? part = leadingUnsigned? false (trim part) := by
  unfold leadingDecimal?
  split
  · next heq => exact absurd rfl (h '-' (by rw [heq]; rfl)).2
  · next heq => exact absurd rfl (h '+' (by rw [heq]; rfl)).1
  · rfl

/-- Neither digits nor points are signs. -/
theorem not_sign_of_digit {c : Char} (h : isDigit c = true ∨ c = '.') : c ≠ '+' ∧ c ≠ '-' := by
  rcases h with h | rfl
  · constructor <;> (rintro rfl; revert h; decide)
  · decide

/-- A part is read as a number when, trimmed, it begins with one. -/
theorem leadingDecimal?_isSome_iff {part : List Char} :
    (leadingDecimal? part).isSome = true ↔ BeginsWithNumeral (trim part) := by
  constructor
  · intro h
    obtain ⟨sign, m, rest, hsign, hm, heq⟩ : ∃ sign m rest, Sign sign ∧ Mantissa m ∧
        trim part = sign ++ (m ++ rest) := by
      unfold leadingDecimal? at h
      split at h
      · next heq =>
        obtain ⟨m, rest, hm, rfl⟩ := leadingUnsigned?_isSome_iff.mp h
        exact ⟨['-'], m, rest, .inr (.inr rfl), hm, heq⟩
      · next heq =>
        obtain ⟨m, rest, hm, rfl⟩ := leadingUnsigned?_isSome_iff.mp h
        exact ⟨['+'], m, rest, .inr (.inl rfl), hm, heq⟩
      · obtain ⟨m, rest, hm, heq⟩ := leadingUnsigned?_isSome_iff.mp h
        exact ⟨[], m, rest, .inl rfl, hm, heq⟩
    refine ⟨sign ++ (m ++ []), rest, ⟨sign, m, [], hsign, hm, .missing, rfl⟩, ?_⟩
    rw [heq, List.append_nil, List.append_assoc]
  · rintro ⟨n, rest, ⟨sign, m, exponent, hsign, hm, -, rfl⟩, heq⟩
    have hsome : ∀ negative, (leadingUnsigned? negative (m ++ (exponent ++ rest))).isSome = true :=
      fun _ => leadingUnsigned?_isSome_iff.mpr ⟨m, _, hm, rfl⟩
    rw [List.append_assoc, List.append_assoc] at heq
    rcases hsign with rfl | rfl | rfl
    · rw [List.nil_append] at heq
      have hunsigned : ∀ c ∈ (trim part).head?, c ≠ '+' ∧ c ≠ '-' := by
        obtain ⟨d, _, rfl, hd⟩ := hm.exists_cons
        rw [heq]
        simpa using not_sign_of_digit hd
      rw [leadingDecimal?_of_unsigned hunsigned, heq, hsome]
    · rw [leadingDecimal?, heq]
      exact hsome false
    · rw [leadingDecimal?, heq]
      exact hsome true

/-! ## Parts -/

theorem leadingDecimal?_trim (part : List Char) :
    leadingDecimal? (trim part) = leadingDecimal? part := by
  unfold leadingDecimal?
  rw [trim_trim]

theorem mapM_eq_some_iff {α β : Type} {f : α → Option β} {xs : List α} {ys : List β} :
    xs.mapM f = some ys ↔ xs.map f = ys.map some := by
  induction xs generalizing ys with
  | nil => cases ys <;> simp
  | cons x xs ih =>
    rw [List.mapM_cons]
    cases ys with
    | nil => cases f x <;> cases hxs : xs.mapM f <;> simp [*]
    | cons y ys =>
      rw [List.map_cons, List.map_cons, List.cons.injEq, ← ih]
      cases f x <;> cases hxs : xs.mapM f <;> simp

theorem mapM_isSome_iff {α β : Type} {f : α → Option β} {xs : List α} :
    (xs.mapM f).isSome = true ↔ ∀ x ∈ xs, (f x).isSome = true := by
  induction xs with
  | nil => simp
  | cons x xs ih =>
    rw [List.mapM_cons, List.forall_mem_cons, ← ih]
    cases f x <;> cases xs.mapM f <;> simp

/-- There is a colour when there are three numbers or more and nothing else. -/
theorem ofParts_isSome_iff {rounding : Rounding} {cs : List Char} :
    (ofParts rounding cs).isSome = true ↔ 3 ≤ (cs.splitOn ',').length ∧
      ∀ part ∈ cs.splitOn ',', BeginsWithNumeral (trim part) := by
  simp only [← leadingDecimal?_isSome_iff, ← mapM_isSome_iff]
  unfold ofParts
  cases h : (cs.splitOn ',').mapM leadingDecimal? with
  | none => simp
  | some decimals =>
    have hlength : (cs.splitOn ',').length = decimals.length := by
      simpa using congrArg List.length (mapM_eq_some_iff.mp h)
    rw [hlength]
    match decimals with
    | [] | [_] | [_, _] => simp
    | [_, _, _] => simp
    | _ :: _ :: _ :: _ :: _ => simp

/-- The parts matter up to white space around them. -/
theorem ofParts_congr {rounding : Rounding} {cs ds : List Char}
    (h : (cs.splitOn ',').map trim = (ds.splitOn ',').map trim) :
    ofParts rounding cs = ofParts rounding ds := by
  have htrim : leadingDecimal? ∘ trim = leadingDecimal? := funext leadingDecimal?_trim
  have hparts : (cs.splitOn ',').mapM leadingDecimal? = (ds.splitOn ',').mapM leadingDecimal? := by
    rw [← htrim, ← List.mapM_map, h, List.mapM_map]
  unfold ofParts
  rw [hparts]

theorem ne_comma_of_isSpace {c : Char} (h : isSpace c = true) : c ≠ ',' := by
  rintro rfl
  revert h
  decide

theorem map_trim_splitOn_of_blank_append {m : Line} (h : isBlank m = true) (cs : List Char) :
    ((m ++ cs).splitOn ',').map trim = (cs.splitOn ',').map trim := by
  induction m with
  | nil => rfl
  | cons c m ih =>
    rw [isBlank, List.all_cons, Bool.and_eq_true] at h
    rw [List.cons_append, List.splitOn_cons_eq_if_modifyHead,
      if_neg (by simpa using ne_comma_of_isSpace h.1), ← ih h.2]
    cases (m ++ cs).splitOn ',' with
    | nil => rfl
    | cons p ps =>
      have hc : isBlank [c] = true := by simpa [isBlank] using h.1
      rw [List.modifyHead_cons, List.map_cons, List.map_cons]
      congr 1
      exact trim_of_blank_append hc p

/-- White space at the end goes to the last part. -/
theorem forall₂_splitOn_append_of_blank (cs : List Char) {m : Line} (h : isBlank m = true) :
    List.Forall₂ (fun p q => ∃ tail, isBlank tail = true ∧ p = q ++ tail)
      ((cs ++ m).splitOn ',') (cs.splitOn ',') := by
  induction cs with
  | nil =>
    have hm : ',' ∉ m := fun hc => ne_comma_of_isSpace (List.all_eq_true.mp h _ hc) rfl
    rw [List.nil_append, List.splitOn_eq_singleton hm, List.splitOn_nil]
    exact .cons ⟨m, h, rfl⟩ .nil
  | cons c cs ih =>
    rw [List.cons_append, List.splitOn_cons_eq_if_modifyHead, List.splitOn_cons_eq_if_modifyHead]
    split
    · exact .cons ⟨[], rfl, rfl⟩ ih
    · revert ih
      generalize (cs ++ m).splitOn ',' = ps, cs.splitOn ',' = qs
      rintro (_ | ⟨⟨tail, htail, rfl⟩, hps⟩)
      · exact .nil
      · exact .cons ⟨tail, htail, rfl⟩ hps

theorem map_trim_splitOn_append_of_blank (cs : List Char) {m : Line} (h : isBlank m = true) :
    ((cs ++ m).splitOn ',').map trim = (cs.splitOn ',').map trim := by
  rw [← List.forall₂_eq_eq_eq, List.forall₂_map_left_iff, List.forall₂_map_right_iff]
  refine (forall₂_splitOn_append_of_blank cs h).imp ?_
  rintro p q ⟨tail, htail, rfl⟩
  exact trim_append_of_blank q htail

theorem ofParts_trim (rounding : Rounding) (cs : List Char) :
    ofParts rounding (trim cs) = ofParts rounding cs := by
  obtain ⟨margin, tail, heq, -, hmargin, htail⟩ := exists_eq_append_trim cs
  apply ofParts_congr
  conv_rhs => rw [heq]
  rw [map_trim_splitOn_of_blank_append hmargin, map_trim_splitOn_append_of_blank _ htail]

/-! ## Brackets -/

/-- An opening bracket. -/
def IsOpening (c : Char) : Prop := c = '(' ∨ c = '['

/-- A closing bracket. -/
def IsClosing (c : Char) : Prop := c = ')' ∨ c = ']'

/-- A text that begins with an opening bracket and ends with a closing one. -/
def InBrackets (cs : List Char) : Prop :=
  (∃ c ∈ cs.head?, IsOpening c) ∧ ∃ d ∈ cs.getLast?, IsClosing d

instance : DecidablePred IsOpening := fun c => inferInstanceAs (Decidable (c = '(' ∨ c = '['))

instance : DecidablePred IsClosing := fun c => inferInstanceAs (Decidable (c = ')' ∨ c = ']'))

instance : DecidablePred InBrackets := fun cs =>
  decidable_of_iff (cs.head?.any (decide <| IsOpening ·) = true ∧
      cs.getLast?.any (decide <| IsClosing ·) = true)
    (by simp [InBrackets, Option.any_eq_true])

theorem IsOpening.not_space {c : Char} (h : IsOpening c) : isSpace c = false := by
  rcases h with rfl | rfl <;> decide

theorem IsClosing.not_space {c : Char} (h : IsClosing c) : isSpace c = false := by
  rcases h with rfl | rfl <;> decide

section
variable {rounding : Rounding} {cs : List Char} {c d : Char}

theorem bracketed?_eq_none (h : ¬InBrackets cs) : bracketed? cs = none := by
  unfold bracketed?
  split
  · next c rest =>
    split
    · next d hd =>
      have hlast : (c :: rest).getLast? = some d := by
        rw [List.getLast?_cons, hd, Option.getD_some]
      rw [if_neg]
      simp only [Bool.and_eq_true, Bool.or_eq_true, beq_iff_eq]
      rintro ⟨⟨⟨hc, hd⟩, -⟩, -⟩
      exact h ⟨⟨c, rfl, hc⟩, d, hlast, hd⟩
    · rfl
  · rfl

theorem bracketed?_eq_some (hc : IsOpening c) (hd : IsClosing d) (hne : cs ≠ [])
    (hbreak : '\n' ∉ cs) : bracketed? (c :: (cs ++ [d])) = some cs := by
  unfold bracketed?
  simp only [List.getLast?_concat, List.dropLast_concat]
  rw [if_pos]
  simpa [hne, hbreak] using ⟨hc, hd⟩

theorem mem_dropOpeningQuote (h : c ∈ cs) (hc : isQuoteMark c = false) :
    c ∈ dropOpeningQuote cs := by
  cases cs with
  | nil => cases h
  | cons d ds =>
    rw [dropOpeningQuote]
    split
    · next hd =>
      refine (List.mem_cons.mp h).resolve_left ?_
      rintro rfl
      rw [hc] at hd
      cases hd
    · exact h

theorem mem_dropClosingQuote (h : c ∈ cs) (hc : isQuoteMark c = false) :
    c ∈ dropClosingQuote cs := by
  obtain ⟨front, d, rfl⟩ := (List.eq_nil_or_concat' cs).resolve_left (List.ne_nil_of_mem h)
  rw [dropClosingQuote, List.getLast?_concat, List.dropLast_concat]
  simp only
  split
  · next hd =>
    refine (List.mem_append.mp h).resolve_right ?_
    rw [List.mem_singleton]
    rintro rfl
    rw [hc] at hd
    cases hd
  · exact h

/-- A comma is no hexadecimal digit, and no quote to be taken off. -/
theorem ofHex?_of_comma (h : ',' ∈ cs) : ofHex? rounding cs = none := by
  unfold ofHex?
  split
  · next rest heq =>
    have hrest : ',' ∈ rest := by
      have hmem := mem_dropOpeningQuote h (by decide)
      rw [heq] at hmem
      exact (List.mem_cons.mp hmem).resolve_left (by decide)
    have hdigits : (dropClosingQuote rest).mapM hexDigit? = none := by
      rw [← Option.not_isSome_iff_eq_none, mapM_isSome_iff]
      intro hall
      have hcomma := hall ',' (mem_dropClosingQuote hrest (by decide))
      revert hcomma
      decide
    rw [hdigits]
    rfl
  · rfl

theorem ofHex?_of_opening (hc : IsOpening c) : ofHex? rounding (c :: cs) = none := by
  rcases hc with rfl | rfl <;> rfl

/-- A text with a comma is read as numbers, with white space around it or without. -/
theorem parse?_bare (hcomma : ',' ∈ cs) (h : ¬InBrackets (trim cs)) :
    parse? rounding cs = ofParts rounding cs := by
  have hmem : ',' ∈ trim cs := mem_trim hcomma (by decide)
  unfold parse?
  simp only [bracketed?_eq_none h, ofParts_trim, ofHex?_of_comma hmem]
  rw [if_pos (by simpa using hmem)]
  cases ofParts rounding cs <;> rfl

/-- What stands in brackets is read as numbers. -/
theorem parse?_bracketed (hc : IsOpening c) (hd : IsClosing d) (hne : cs ≠ [])
    (hbreak : '\n' ∉ cs) : parse? rounding (c :: (cs ++ [d])) = ofParts rounding cs := by
  have htight : Tight (c :: (cs ++ [d])) := by
    constructor
    · simpa using hc.not_space
    · rw [← List.cons_append, List.getLast?_concat]
      simpa using hd.not_space
  unfold parse?
  simp only [trim_eq_of_tight htight, bracketed?_eq_some hc hd hne hbreak, ofHex?_of_opening hc]
  cases ofParts rounding cs <;> rfl

end

/-- **Bare colours and colours in brackets are the same.**  A text with a comma and without brackets
of its own around it has one reading, with any white space around it, in round brackets and in
square ones.  It is a colour exactly when it has three parts or more between its commas and each of
them, trimmed, begins with a number. -/
theorem parse_ignores_brackets (rounding : Rounding) {s u v : Line} (hcomma : ',' ∈ s)
    (hbreak : '\n' ∉ s) (hbare : ¬InBrackets (trim s)) (hu : isBlank u = true)
    (hv : isBlank v = true) :
    parse? rounding (u ++ s ++ v) = parse? rounding ('(' :: (s ++ [')'])) ∧
      parse? rounding ('(' :: (s ++ [')'])) = parse? rounding ('[' :: (s ++ [']'])) ∧
      ((parse? rounding (u ++ s ++ v)).isSome = true ↔ 3 ≤ (s.splitOn ',').length ∧
        ∀ part ∈ s.splitOn ',', BeginsWithNumeral (trim part)) := by
  have hne : s ≠ [] := List.ne_nil_of_mem hcomma
  have houter : trim (u ++ s ++ v) = trim s := by
    rw [trim_append_of_blank _ hv, trim_of_blank_append hu]
  have hspaced : parse? rounding (u ++ s ++ v) = ofParts rounding s := by
    rw [parse?_bare (by simp [hcomma]) (houter ▸ hbare), ← ofParts_trim, houter, ofParts_trim]
  have hround : parse? rounding ('(' :: (s ++ [')'])) = ofParts rounding s :=
    parse?_bracketed (.inl rfl) (.inl rfl) hne hbreak
  have hsquare : parse? rounding ('[' :: (s ++ [']'])) = ofParts rounding s :=
    parse?_bracketed (.inr rfl) (.inr rfl) hne hbreak
  rw [hspaced, hround, hsquare]
  exact ⟨rfl, rfl, ofParts_isSome_iff⟩

/-- Digits of another script, a point without digits in front, an exponent mark without digits
behind and a bracket at the end. -/
def strayNumbers : Line := "\u0663.x, .5e,-1e3 )".toList

/-- The stray characters behind the numbers do no harm. -/
theorem parse_ignores_brackets_stray :
    ',' ∈ strayNumbers ∧ '\n' ∉ strayNumbers ∧ ¬InBrackets (trim strayNumbers) ∧
      isBlank ['\u00a0'] = true ∧ isBlank ['\n', '\t'] = true ∧
      parse? exact (['\u00a0'] ++ strayNumbers ++ ['\n', '\t']) =
        parse? exact ('(' :: (strayNumbers ++ [')'])) ∧
      (parse? exact ('(' :: (strayNumbers ++ [')']))).isSome = true := by
  have hcomma : ',' ∈ strayNumbers := by decide
  have hbreak : '\n' ∉ strayNumbers := by decide
  have hbare : ¬InBrackets (trim strayNumbers) := by decide
  have hu : isBlank ['\u00a0'] = true := by decide
  have hv : isBlank ['\n', '\t'] = true := by decide
  have hparts : (ofParts exact strayNumbers).isSome = true := by decide +kernel
  obtain ⟨hround, -, hcolor⟩ := parse_ignores_brackets exact hcomma hbreak hbare hu hv
  refine ⟨hcomma, hbreak, hbare, hu, hv, hround, ?_⟩
  rw [← hround, hcolor]
  exact ofParts_isSome_iff.mp hparts

end KvMarkup.Color

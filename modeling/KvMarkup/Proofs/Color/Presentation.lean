import KvMarkup.Color.Presentation
import KvMarkup.Proofs.Color.Brackets
import KvMarkup.Proofs.Number.Places
import KvMarkup.Proofs.Text.Lines

/-!
# Reading a written colour back

The components of a colour are written as steps on a scale, the nearest ones: hundredths for
decimals and bytes for hexadecimal digits.  Between a colour and its writings stand `Steps`, which
each form spells and which the reader finds in it again:

    parse? s.bare = some (s.color 100)                                    (Steps.parse?_bare)
    parse? s.bracketed = some (s.color 100)                          (Steps.parse?_bracketed)
    parse? s.hex = some (s.color 255)                                      (Steps.parse?_hex)

So what is lost on the way is the distance to the nearest step (`Steps.close_nearest`), and a colour
that is in steps already comes back as it is (`Steps.nearest_color`).  The reader takes hexadecimal
letters of either case; the writer's are in lower case.
-/

namespace KvMarkup.Color

open KvMarkup.Text KvMarkup.Number

/-! ## Components -/

theorem digitValue?_digitChar {d : Nat} (h : d < 10) : digitValue? d.digitChar = some d := by
  revert d
  decide

theorem isDigit_digitChar {d : Nat} (h : d < 10) : isDigit d.digitChar = true := by
  rw [isDigit, digitValue?_digitChar h, Option.isSome_some]

theorem hexDigit?_digitChar {d : Nat} (h : d < 16) : hexDigit? d.digitChar = some d := by
  revert d
  decide

theorem isSpace_digitChar {d : Nat} (h : d < 16) : isSpace d.digitChar = false := by
  revert d
  decide

/-- Hundredths, with their digits around a point. -/
def hundredths (n : Nat) : List Char :=
  [(n / 100).digitChar, '.', (n / 10 % 10).digitChar, (n % 10).digitChar]

/-- A byte in two hexadecimal digits. -/
def hexPair (n : Nat) : List Char := [(n / 16).digitChar, (n % 16).digitChar]

section
variable {r : Rat} (h0 : 0 ≤ r) (h1 : r ≤ 1)
include h0 h1

theorem fixed_ofRat : fixed (.ofRat r) = .ok (String.ofList (hundredths (step 100 r))) := by
  have hle : step 100 r ≤ 100 := step_le h0 h1
  have hpadded := padded_toDigits (b := 10) (w := 2) (n := step 100 r) (by decide) (by omega)
  have hlength : (Nat.toDigits 10 (step 100 r)).length ≤ 3 := by
    have := congrArg List.length hpadded
    simp only [List.length_append, List.length_replicate, places, List.length_cons,
      List.length_nil] at this
    omega
  rw [Channel.ofRat, if_neg (not_lt.mpr h0)]
  unfold fixed
  simp only [roundHalfUp_eq_step h0]
  rw [if_neg (by rw [maxDecimalDigits]; omega), hpadded, hundredths,
    show step 100 r / 100 = step 100 r / 10 / 10 % 10 by omega]
  rfl

theorem hexChannel_ofRat :
    hexChannel exact (.ofRat r) = .ok (String.ofList (hexPair (step 255 r))) := by
  have hle : step 255 r ≤ 255 := step_le h0 h1
  have hfloor : (r * 255 + 1 / 2).floor = step 255 r := floor_eq_step h0
  have hpadded := padded_toDigits (b := 16) (w := 1) (n := step 255 r) (by decide) (by omega)
  rw [Channel.ofRat, if_neg (not_lt.mpr h0)]
  unfold hexChannel
  simp only [signedValue, exact, id_eq, Bool.false_eq_true, if_false, hfloor]
  rw [if_neg (by omega), Int.natAbs_natCast, hexDigits, hpadded, hexPair,
    show step 255 r / 16 = step 255 r / 16 % 16 by omega]
  rfl

end

/-! ## Reading decimals -/

theorem leadingUnsigned?_pointed {negative : Bool} {ds fs : List Char}
    (hd : ∀ d ∈ ds, isDigit d = true) (hf : ∀ d ∈ fs, isDigit d = true) (hne : ds ≠ []) :
    leadingUnsigned? negative (ds ++ '.' :: fs) =
      some ⟨negative, digitsValue (ds ++ fs), -fs.length⟩ := by
  have hpoint : ¬isDigit '.' = true := by decide
  unfold leadingUnsigned?
  rw [List.takeWhile_append_of_pos hd, List.takeWhile_cons_of_neg hpoint, List.append_nil,
    List.dropWhile_append_of_pos hd, List.dropWhile_cons_of_neg hpoint]
  simp only [List.takeWhile_eq_self_iff.mpr hf, List.dropWhile_eq_nil_iff.mpr hf]
  rw [if_neg (by simp [hne]), leadingExponent, Int.zero_sub]

theorem tight_hundredths {n : Nat} (h : n < 1000) : Tight (hundredths n) := by
  constructor
  · simpa [hundredths] using isSpace_digitChar (d := n / 100) (by omega)
  · simpa [hundredths] using isSpace_digitChar (d := n % 10) (by omega)

/-- Hundredths are read as what they are. -/
theorem leadingDecimal?_hundredths {n : Nat} (h : n < 1000) :
    leadingDecimal? (hundredths n) = some ⟨false, n, -2⟩ := by
  have hwhole : isDigit (n / 100).digitChar = true := isDigit_digitChar (by omega)
  have htens : isDigit (n / 10 % 10).digitChar = true := isDigit_digitChar (by omega)
  have hones : isDigit (n % 10).digitChar = true := isDigit_digitChar (by omega)
  have hvalue : digitsValue [(n / 100).digitChar, (n / 10 % 10).digitChar, (n % 10).digitChar] =
      n := by
    simp only [digitsValue, List.foldl_cons, List.foldl_nil,
      digitValue?_digitChar (show n / 100 < 10 by omega),
      digitValue?_digitChar (show n / 10 % 10 < 10 by omega),
      digitValue?_digitChar (show n % 10 < 10 by omega), Option.getD_some]
    omega
  have hhead : ∀ c ∈ (hundredths n).head?, c ≠ '+' ∧ c ≠ '-' := by
    simp [hundredths]
  have htrim : trim (hundredths n) = [(n / 100).digitChar] ++
      '.' :: [(n / 10 % 10).digitChar, (n % 10).digitChar] := trim_eq_of_tight (tight_hundredths h)
  rw [leadingDecimal?_of_unsigned (by rwa [trim_eq_of_tight (tight_hundredths h)]), htrim,
    leadingUnsigned?_pointed (by simpa using hwhole) (by simp [htens, hones]) (by simp)]
  simp only [List.singleton_append, hvalue]
  rfl

/-- The value of a component of a number of steps. -/
theorem clamp_exact_hundredths {n : Nat} (h : n ≤ 100) :
    clamp (exact.decimal ⟨false, n, -2⟩) = n / (100 : Nat) := by
  have hvalue : exact.decimal ⟨false, n, -2⟩ = (n : Rat) / (100 : Nat) := rfl
  have hle : (n : Rat) / (100 : Nat) ≤ 1 := by
    rw [div_le_one (by norm_num)]
    exact_mod_cast h
  rw [hvalue, clamp, if_neg (not_lt.mpr (by positivity)), if_neg (not_lt.mpr hle)]

/-- Numbers of hundredths between commas and blanks. -/
def decimals : List Nat → List Char
  | [] => []
  | [n] => hundredths n
  | n :: m :: ns => hundredths n ++ ',' :: ' ' :: decimals (m :: ns)

theorem mem_hundredths {n : Nat} (h : n < 1000) {c : Char} (hc : c ∈ hundredths n) :
    isDigit c = true ∨ c = '.' := by
  rw [hundredths] at hc
  simp only [List.mem_cons, List.not_mem_nil, or_false] at hc
  rcases hc with rfl | rfl | rfl | rfl
  · exact .inl (isDigit_digitChar (by omega))
  · exact .inr rfl
  · exact .inl (isDigit_digitChar (by omega))
  · exact .inl (isDigit_digitChar (by omega))

theorem comma_not_mem_hundredths {n : Nat} (h : n < 1000) : ',' ∉ hundredths n := by
  intro hc
  have := mem_hundredths h hc
  revert this
  decide

section
variable {ns : List Nat} (h : ∀ n ∈ ns, n < 1000)
include h

theorem mem_decimals {c : Char} (hc : c ∈ decimals ns) :
    isDigit c = true ∨ c = '.' ∨ c = ',' ∨ c = ' ' := by
  have hone : ∀ n < 1000, c ∈ hundredths n → isDigit c = true ∨ c = '.' ∨ c = ',' ∨ c = ' ' :=
    fun n hn hc => (mem_hundredths hn hc).imp_right .inl
  induction ns with
  | nil => cases hc
  | cons n ns ih =>
    rw [List.forall_mem_cons] at h
    cases ns with
    | nil => exact hone n h.1 hc
    | cons m ns =>
      rw [decimals, List.mem_append, List.mem_cons, List.mem_cons] at hc
      rcases hc with hc | hc | hc | hc
      · exact hone n h.1 hc
      · exact .inr (.inr (.inl hc))
      · exact .inr (.inr (.inr hc))
      · exact ih h.2 hc

/-- The parts between the commas are the numbers. -/
theorem map_trim_splitOn_decimals (hne : ns ≠ []) :
    ((decimals ns).splitOn ',').map trim = ns.map hundredths := by
  induction ns with
  | nil => exact absurd rfl hne
  | cons n ns ih =>
    rw [List.forall_mem_cons] at h
    have htrim : trim (hundredths n) = hundredths n := trim_eq_of_tight (tight_hundredths h.1)
    cases ns with
    | nil =>
      rw [decimals, List.splitOn_eq_singleton (comma_not_mem_hundredths h.1), List.map_singleton,
        htrim]
      rfl
    | cons m ns =>
      have hrest : ((' ' :: decimals (m :: ns)).splitOn ',').map trim =
          ((decimals (m :: ns)).splitOn ',').map trim :=
        map_trim_splitOn_of_blank_append (m := [' ']) (by decide) _
      rw [decimals, List.splitOn_append_cons_self_of_not_mem (comma_not_mem_hundredths h.1),
        List.map_cons, htrim, hrest, ih h.2 (List.cons_ne_nil m ns), List.map_cons (l := m :: ns)]

theorem count_comma_decimals (hne : ns ≠ []) : (decimals ns).count ',' + 1 = ns.length := by
  induction ns with
  | nil => exact absurd rfl hne
  | cons n ns ih =>
    rw [List.forall_mem_cons] at h
    have hn : (hundredths n).count ',' = 0 := List.count_eq_zero.mpr (comma_not_mem_hundredths h.1)
    cases ns with
    | nil => rw [decimals, hn]; rfl
    | cons m ns =>
      rw [decimals, List.count_append, hn, List.count_cons_self,
        List.count_cons_of_ne (by decide), Nat.zero_add, ih h.2 (List.cons_ne_nil m ns)]
      rfl

theorem mapM_leadingDecimal?_decimals (hne : ns ≠ []) :
    ((decimals ns).splitOn ',').mapM leadingDecimal? =
      some (ns.map fun n => ⟨false, n, -2⟩) := by
  have htrim : leadingDecimal? ∘ trim = leadingDecimal? := funext leadingDecimal?_trim
  rw [mapM_eq_some_iff, ← htrim, ← List.map_map, map_trim_splitOn_decimals h hne, List.map_map,
    List.map_map]
  apply List.map_congr_left
  intro n hn
  exact leadingDecimal?_hundredths (h n hn)

end

/-! ## Colours in steps -/

/-- The components of a colour as numbers of steps on a scale, with alpha or without it. -/
structure Steps where
  red : Nat
  green : Nat
  blue : Nat
  alpha : Option Nat

namespace Steps

/-- The components in order. -/
def toList (s : Steps) : List Nat := s.red :: s.green :: s.blue :: s.alpha.toList

/-- The colour on a scale of `k` steps; without alpha it is opaque. -/
def color (k : Nat) (s : Steps) : Rgba Rat :=
  ⟨s.red / k, s.green / k, s.blue / k, s.alpha.elim 1 fun a => a / k⟩

/-- No component is beyond the end of the scale. -/
def Within (k : Nat) (s : Steps) : Prop := ∀ n ∈ s.toList, n ≤ k

/-- The nearest steps to the components of a colour. -/
def nearest (k : Nat) (c : Rgba Rat) (withAlpha : Bool) : Steps :=
  ⟨step k c.red, step k c.green, step k c.blue, if withAlpha then some (step k c.alpha) else none⟩

/-- The colour as decimals. -/
def bare (s : Steps) : List Char := decimals s.toList

/-- The colour as decimals in brackets. -/
def bracketed (s : Steps) : List Char := '(' :: (s.bare ++ [')'])

/-- The colour as hexadecimal digits. -/
def hex (s : Steps) : List Char := '#' :: s.toList.flatMap hexPair

variable {s : Steps}

theorem lt_of_within (h : s.Within 100) : ∀ n ∈ s.toList, n < 1000 := fun n hn => by
  have := h n hn
  omega

theorem ofParts_bare (h : s.Within 100) : ofParts exact s.bare = some (s.color 100) := by
  obtain ⟨r, g, b, alpha⟩ := s
  have hr := clamp_exact_hundredths (h r (by simp [toList]))
  have hg := clamp_exact_hundredths (h g (by simp [toList]))
  have hb := clamp_exact_hundredths (h b (by simp [toList]))
  unfold ofParts
  rw [bare, mapM_leadingDecimal?_decimals (lt_of_within h) (List.cons_ne_nil _ _)]
  cases alpha with
  | none =>
    simp only [toList, color, Option.toList_none, List.map_cons, List.map_nil, Option.bind_eq_bind,
      Option.bind_some, hr, hg, hb, Option.elim_none]
  | some a =>
    have ha := clamp_exact_hundredths (h a (by simp [toList]))
    simp only [toList, color, Option.toList_some, List.map_cons, List.map_nil, Option.bind_eq_bind,
      Option.bind_some, hr, hg, hb, ha, Option.elim_some]

theorem not_mem_bare (h : s.Within 100) {c : Char} (hdigit : isDigit c = false)
    (hc : c ≠ '.' ∧ c ≠ ',' ∧ c ≠ ' ') : c ∉ s.bare := by
  intro hmem
  have := mem_decimals (lt_of_within h) hmem
  simp [hdigit, hc] at this

/-- Decimals are read as the colour they are. -/
theorem parse?_bare (h : s.Within 100) : parse? exact s.bare = some (s.color 100) := by
  have hcomma : ',' ∈ s.bare := by
    rw [bare, toList, decimals]
    simp
  have hbare : ¬InBrackets (trim s.bare) := by
    rintro ⟨⟨c, hc, hopening⟩, -⟩
    have hmem : c ∈ s.bare := trim_subset _ (List.mem_of_mem_head? hc)
    rcases hopening with rfl | rfl
    · exact not_mem_bare h (by decide) (by decide) hmem
    · exact not_mem_bare h (by decide) (by decide) hmem
  rw [Color.parse?_bare hcomma hbare, ofParts_bare h]

theorem parse?_bracketed (h : s.Within 100) : parse? exact s.bracketed = some (s.color 100) := by
  have hne : s.bare ≠ [] := by
    rw [bare, toList, decimals, hundredths]
    nofun
  rw [bracketed, Color.parse?_bracketed (.inl rfl) (.inl rfl) hne
    (not_mem_bare h (by decide) (by decide)), ofParts_bare h]

end Steps

/-! ## Reading hexadecimal digits -/

/-- The hexadecimal digits, with letters of either case. -/
def hexAlphabet : List Char := "0123456789abcdefABCDEF".toList

/-- Two hexadecimal digits for each byte. -/
structure SpellsBytes (ds : List Char) (ns : List Nat) : Prop where
  digits : ∀ d ∈ ds, d ∈ hexAlphabet
  values : ds.map hexDigit? = ns.flatMap fun n => [some (n / 16), some (n % 16)]

theorem forall_mem_hexAlphabet {P : Char → Bool} (h : hexAlphabet.all P = true) {c : Char}
    (hc : c ∈ hexAlphabet) : P c = true :=
  List.all_eq_true.mp h c hc

theorem exists_hexDigit {c : Char} (h : c ∈ hexAlphabet) :
    ∃ d < 16, hexDigit? c = some d ∧ d.digitChar = c.toLower := by
  have hdigit := forall_mem_hexAlphabet
    (P := fun c => (hexDigit? c).any fun d => decide (d < 16) && d.digitChar == c.toLower)
    (by decide) h
  obtain ⟨d, hd, hlower⟩ := (Option.any_eq_true _ _).mp hdigit
  rw [Bool.and_eq_true, decide_eq_true_eq, beq_iff_eq] at hlower
  exact ⟨d, hlower.1, hd, hlower.2⟩

theorem digitChar_mem_hexAlphabet {d : Nat} (h : d < 16) : d.digitChar ∈ hexAlphabet := by
  revert d
  decide

theorem not_space_of_hex {c : Char} (h : c ∈ hexAlphabet) : isSpace c = false := by
  simpa using forall_mem_hexAlphabet (P := fun c => !isSpace c) (by decide) h

theorem not_quote_of_hex {c : Char} (h : c ∈ hexAlphabet) : isQuoteMark c = false := by
  simpa using forall_mem_hexAlphabet (P := fun c => !isQuoteMark c) (by decide) h

theorem spellsBytes_hexPairs {ns : List Nat} (h : ∀ n ∈ ns, n ≤ 255) :
    SpellsBytes (ns.flatMap hexPair) ns := by
  induction ns with
  | nil => exact ⟨nofun, rfl⟩
  | cons n ns ih =>
    rw [List.forall_mem_cons] at h
    obtain ⟨hdigits, hvalues⟩ := ih h.2
    have hhigh : n / 16 < 16 := by omega
    have hlow : n % 16 < 16 := by omega
    constructor
    · rw [List.flatMap_cons, List.forall_mem_append]
      refine ⟨?_, hdigits⟩
      simp [hexPair, digitChar_mem_hexAlphabet hhigh, digitChar_mem_hexAlphabet hlow]
    · rw [List.flatMap_cons, List.map_append, hvalues, List.flatMap_cons]
      simp [hexPair, hexDigit?_digitChar hhigh, hexDigit?_digitChar hlow]

/-- Pairs of digits are the bytes that they spell. -/
theorem exists_spelled {ds : List Char} {k : Nat} (hds : ∀ d ∈ ds, d ∈ hexAlphabet)
    (hlength : ds.length = 2 * k) :
    ∃ ns : List Nat, ns.length = k ∧ (∀ n ∈ ns, n ≤ 255) ∧ SpellsBytes ds ns ∧
      ds.map Char.toLower = ns.flatMap hexPair := by
  induction k generalizing ds with
  | zero =>
    obtain rfl := List.length_eq_zero_iff.mp hlength
    exact ⟨[], rfl, nofun, ⟨nofun, rfl⟩, rfl⟩
  | succ k ih =>
    match ds, hlength with
    | x :: y :: ds, hlength =>
      rw [List.forall_mem_cons, List.forall_mem_cons] at hds
      obtain ⟨hx, hy, hds⟩ := hds
      obtain ⟨a, ha, hxa, hxlower⟩ := exists_hexDigit hx
      obtain ⟨b, hb, hyb, hylower⟩ := exists_hexDigit hy
      rw [List.length_cons, List.length_cons, Nat.mul_succ, Nat.add_right_cancel_iff,
        Nat.add_right_cancel_iff] at hlength
      obtain ⟨ns, hns, hle, hspells, hlower⟩ := ih hds hlength
      have hhigh : (16 * a + b) / 16 = a := by omega
      have hlow : (16 * a + b) % 16 = b := by omega
      refine ⟨(16 * a + b) :: ns, by rw [List.length_cons, hns], ?_, ⟨?_, ?_⟩, ?_⟩
      · rw [List.forall_mem_cons]
        exact ⟨by omega, hle⟩
      · rw [List.forall_mem_cons, List.forall_mem_cons]
        exact ⟨hx, hy, hds⟩
      · simp [hhigh, hlow, hxa, hyb, hspells.values]
      · simp [hexPair, hhigh, hlow, hxlower, hylower, hlower]

theorem pairs_flatMap (ns : List Nat) : pairs (ns.flatMap fun n => [n / 16, n % 16]) = ns := by
  induction ns with
  | nil => rfl
  | cons n ns ih =>
    rw [List.flatMap_cons, List.cons_append, List.cons_append, List.nil_append, pairs, ih,
      Nat.div_add_mod]

section
variable {ds : List Char} {ns : List Nat}

theorem SpellsBytes.mapM_eq (h : SpellsBytes ds ns) :
    ds.mapM hexDigit? = some (ns.flatMap fun n => [n / 16, n % 16]) := by
  rw [mapM_eq_some_iff, h.values, List.map_flatMap]
  rfl

theorem SpellsBytes.dropClosingQuote_eq (h : SpellsBytes ds ns) : dropClosingQuote ds = ds := by
  rcases List.eq_nil_or_concat' ds with rfl | ⟨front, d, rfl⟩
  · rfl
  · rw [dropClosingQuote, List.getLast?_concat]
    simp only
    rw [not_quote_of_hex (h.digits d (by simp)), if_neg Bool.false_ne_true]

theorem SpellsBytes.tight (h : SpellsBytes ds ns) : Tight ('#' :: ds) := by
  have hmark : isSpace '#' = false := by decide
  constructor
  · simpa using hmark
  · rcases List.eq_nil_or_concat' ds with rfl | ⟨front, d, rfl⟩
    · simpa using hmark
    · rw [← List.cons_append, List.getLast?_concat]
      simpa using not_space_of_hex (h.digits d (by simp))

/-- Hexadecimal digits are read as the colour they are. -/
theorem SpellsBytes.parse?_eq {s : Steps} (h : SpellsBytes ds s.toList) :
    parse? exact ('#' :: ds) = some (s.color 255) := by
  have hbare : ¬InBrackets ('#' :: ds) := by
    rintro ⟨⟨c, hc, hopening⟩, -⟩
    obtain rfl : '#' = c := by simpa using hc
    revert hopening
    decide
  have hcomma : ',' ∉ '#' :: ds := by
    rw [List.mem_cons]
    rintro (hc | hc)
    · revert hc
      decide
    · have := h.digits _ hc
      revert this
      decide
  have hhex : ofHex? exact ('#' :: ds) = some (s.color 255) := by
    have hquote : dropOpeningQuote ('#' :: ds) = '#' :: ds := rfl
    unfold ofHex?
    rw [hquote]
    simp only [h.dropClosingQuote_eq, h.mapM_eq, Option.bind_eq_bind, Option.bind_some,
      pairs_flatMap]
    obtain ⟨r, g, b, alpha⟩ := s
    cases alpha <;> simp [Steps.toList, Steps.color, exact]
  unfold parse?
  simp only [trim_eq_of_tight h.tight, bracketed?_eq_none hbare, hhex]
  rw [if_neg (by simpa using hcomma)]

end

theorem Steps.parse?_hex {s : Steps} (h : s.Within 255) :
    parse? exact s.hex = some (s.color 255) :=
  (spellsBytes_hexPairs h).parse?_eq

/-! ## What is written -/

/-- Components from zero to one. -/
structure InUnit (c : Rgba Rat) : Prop where
  red : 0 ≤ c.red ∧ c.red ≤ 1
  green : 0 ≤ c.green ∧ c.green ≤ 1
  blue : 0 ≤ c.blue ∧ c.blue ≤ 1
  alpha : 0 ≤ c.alpha ∧ c.alpha ≤ 1

theorem Steps.within_nearest {c : Rgba Rat} (h : InUnit c) (k : Nat) (withAlpha : Bool) :
    (nearest k c withAlpha).Within k := by
  have hr := step_le (k := k) h.red.1 h.red.2
  have hg := step_le (k := k) h.green.1 h.green.2
  have hb := step_le (k := k) h.blue.1 h.blue.2
  have ha := step_le (k := k) h.alpha.1 h.alpha.2
  cases withAlpha <;> simp [Within, toList, nearest, hr, hg, hb, ha]

/-- The ways to write a colour on a line with three components or on any other one. -/
def writings (c : Rgba Rat) (three : Bool) : List (List Char) :=
  let rgb := Steps.nearest 100 c false
  let rgba := Steps.nearest 100 c true
  (if three then [rgb.bare, rgb.bracketed]
    else [rgba.bare, rgb.bare, rgba.bracketed, rgb.bracketed]) ++
  (Steps.nearest 255 c false).hex ::
    if !three && c.alpha < 1 then [(Steps.nearest 255 c true).hex] else []

theorem belowOne_ofRat (r : Rat) : (Channel.ofRat r).belowOne = decide (r < 1) := by
  unfold Channel.ofRat Channel.belowOne
  by_cases h : r < 0
  · rw [if_pos h]
    simp [signedValue]
  · rw [if_neg h]
    simp [signedValue]

theorem ofList_bare (s : Steps) :
    String.ofList s.bare = String.ofList (hundredths s.red) ++ ", " ++
      String.ofList (hundredths s.green) ++ ", " ++ String.ofList (hundredths s.blue) ++
      s.alpha.elim "" fun a => ", " ++ String.ofList (hundredths a) := by
  obtain ⟨r, g, b, alpha⟩ := s
  apply String.toList_injective
  cases alpha <;> simp [Steps.bare, Steps.toList, decimals]

theorem ofList_bracketed (s : Steps) :
    String.ofList s.bracketed = "(" ++ String.ofList s.bare ++ ")" := by
  apply String.toList_injective
  simp [Steps.bracketed]

theorem ofList_hex (s : Steps) :
    String.ofList s.hex = "#" ++ String.ofList (hexPair s.red) ++
      String.ofList (hexPair s.green) ++ String.ofList (hexPair s.blue) ++
      s.alpha.elim "" fun a => String.ofList (hexPair a) := by
  obtain ⟨r, g, b, alpha⟩ := s
  apply String.toList_injective
  cases alpha <;> simp [Steps.hex, Steps.toList]

theorem presentations_eq {c : Rgba Rat} (h : InUnit c) (line : Line) :
    presentations exact (c.map .ofRat) line =
      .ok ((writings c (isThreeComponent line)).map String.ofList) := by
  obtain ⟨r, g, b, a⟩ := c
  obtain ⟨hr, hg, hb, ha⟩ := h
  have hopaque : Channel.finite false 1 = .ofRat 1 := by
    rw [Channel.ofRat, if_neg (by norm_num)]
  unfold presentations
  simp only [Rgba.map]
  rw [fixed_ofRat hr.1 hr.2, fixed_ofRat hg.1 hg.2, fixed_ofRat hb.1 hb.2,
    hexChannel_ofRat hr.1 hr.2, hexChannel_ofRat hg.1 hg.2, hexChannel_ofRat hb.1 hb.2]
  cases isThreeComponent line with
  | true =>
    simp only [if_true, hopaque, fixed_ofRat (show (0 : Rat) ≤ 1 by norm_num) le_rfl]
    simp [writings, ofList_bare, ofList_bracketed, ofList_hex, Steps.nearest, bind, Except.bind]
  | false =>
    by_cases hbelow : a < 1
    · simp [writings, ofList_bare, ofList_bracketed, ofList_hex, Steps.nearest, bind, Except.bind,
        fixed_ofRat ha.1 ha.2, hexChannel_ofRat ha.1 ha.2, belowOne_ofRat, hbelow,
        String.append_assoc]
    · simp [writings, ofList_bare, ofList_bracketed, ofList_hex, Steps.nearest, bind, Except.bind,
        fixed_ofRat ha.1 ha.2, belowOne_ofRat, hbelow, String.append_assoc]

/-! ## Reading back -/

/-- How far apart a component written in these characters and the one read from them may be. -/
def tolerance (p : List Char) : Rat := if p.head? = some '#' then 1 / 510 else 1 / 200

/-- The number of components written in these characters. -/
def componentCount (p : List Char) : Nat :=
  if p.head? = some '#' then (p.length - 1) / 2 else p.count ',' + 1

/-- Two colours are no further apart than a tolerance; of three components the first colour is
opaque, whatever the second one is. -/
structure Close (tolerance : Rat) (count : Nat) (d c : Rgba Rat) : Prop where
  red : |d.red - c.red| ≤ tolerance
  green : |d.green - c.green| ≤ tolerance
  blue : |d.blue - c.blue| ≤ tolerance
  alpha : count = 3 ∧ d.alpha = 1 ∨ count = 4 ∧ |d.alpha - c.alpha| ≤ tolerance

namespace Steps

theorem close_nearest {c : Rgba Rat} (h : InUnit c) {k : Nat} (hk : 0 < k) (withAlpha : Bool) :
    Close (1 / (2 * k)) (nearest k c withAlpha).toList.length
      ((nearest k c withAlpha).color k) c where
  red := abs_step_div_sub_le hk h.red.1
  green := abs_step_div_sub_le hk h.green.1
  blue := abs_step_div_sub_le hk h.blue.1
  alpha := by
    cases withAlpha with
    | false => exact .inl ⟨rfl, rfl⟩
    | true => exact .inr ⟨rfl, abs_step_div_sub_le hk h.alpha.1⟩

theorem nearest_color {s : Steps} {k : Nat} (hk : 0 < k) :
    nearest k (s.color k) s.alpha.isSome = s := by
  obtain ⟨r, g, b, alpha⟩ := s
  cases alpha <;> simp [nearest, color, step_div hk]

theorem inUnit_color {s : Steps} {k : Nat} (h : s.Within k) : InUnit (s.color k) := by
  have hunit {n : Nat} (hn : n ∈ s.toList) : 0 ≤ (n : Rat) / k ∧ (n : Rat) / k ≤ 1 :=
    ⟨by positivity, div_le_one_of_le₀ (Nat.cast_le.mpr (h n hn)) (Nat.cast_nonneg k)⟩
  obtain ⟨r, g, b, alpha⟩ := s
  refine ⟨hunit (by simp [toList]), hunit (by simp [toList]), hunit (by simp [toList]), ?_⟩
  cases alpha with
  | none => exact ⟨zero_le_one, le_rfl⟩
  | some a => exact hunit (by simp [toList])

variable {s : Steps}

theorem head?_bare (h : s.Within 100) : s.bare.head? ≠ some '#' := by
  intro hhead
  exact not_mem_bare h (by decide) (by decide) (List.mem_of_mem_head? hhead)

theorem componentCount_bare (h : s.Within 100) : componentCount s.bare = s.toList.length := by
  rw [componentCount, if_neg (head?_bare h), bare,
    count_comma_decimals (lt_of_within h) (List.cons_ne_nil _ _)]

theorem componentCount_bracketed (h : s.Within 100) :
    componentCount s.bracketed = s.toList.length := by
  have hcount : s.bracketed.count ',' = s.bare.count ',' := by
    simp [bracketed, List.count_append]
  rw [← componentCount_bare h, componentCount, componentCount, if_neg (head?_bare h), hcount,
    if_neg (by simp [bracketed])]

theorem componentCount_hex : componentCount s.hex = s.toList.length := by
  have hlength : (s.toList.flatMap hexPair).length = s.toList.length * 2 := by
    simp [List.length_flatMap, hexPair]
  simp [componentCount, hex, hlength]

end Steps

theorem tolerance_of_hex {p : List Char} (h : p.head? = some '#') :
    tolerance p = 1 / (2 * (255 : Nat)) := by
  rw [tolerance, if_pos h]
  norm_num

theorem tolerance_of_decimals {p : List Char} (h : p.head? ≠ some '#') :
    tolerance p = 1 / (2 * (100 : Nat)) := by
  rw [tolerance, if_neg h]
  norm_num

/-- A writing is one of three forms of the nearest steps. -/
theorem forms_of_mem_writings {c : Rgba Rat} {three : Bool} {p : List Char}
    (h : p ∈ writings c three) :
    ∃ withAlpha, p = (Steps.nearest 100 c withAlpha).bare ∨
      p = (Steps.nearest 100 c withAlpha).bracketed ∨ p = (Steps.nearest 255 c withAlpha).hex := by
  unfold writings at h
  rw [List.mem_append, List.mem_cons] at h
  rcases h with h | h | h
  · cases three with
    | true =>
      simp only [if_true, List.mem_cons, List.not_mem_nil, or_false] at h
      exact ⟨false, h.imp_right .inl⟩
    | false =>
      simp only [Bool.false_eq_true, if_false, List.mem_cons, List.not_mem_nil, or_false] at h
      rcases h with h | h | h | h
      · exact ⟨true, .inl h⟩
      · exact ⟨false, .inl h⟩
      · exact ⟨true, .inr (.inl h)⟩
      · exact ⟨false, .inr (.inl h)⟩
  · exact ⟨false, .inr (.inr h)⟩
  · split at h
    · exact ⟨true, .inr (.inr (List.mem_singleton.mp h))⟩
    · cases h

theorem exists_close_of_mem_writings {c : Rgba Rat} (h : InUnit c) {three : Bool} {p : List Char}
    (hp : p ∈ writings c three) :
    ∃ d, parse? exact p = some d ∧ Close (tolerance p) (componentCount p) d c := by
  obtain ⟨withAlpha, rfl | rfl | rfl⟩ := forms_of_mem_writings hp
  · have hwithin := Steps.within_nearest h 100 withAlpha
    refine ⟨_, Steps.parse?_bare hwithin, ?_⟩
    rw [tolerance_of_decimals (Steps.head?_bare hwithin), Steps.componentCount_bare hwithin]
    exact Steps.close_nearest h (by decide) withAlpha
  · have hwithin := Steps.within_nearest h 100 withAlpha
    refine ⟨_, Steps.parse?_bracketed hwithin, ?_⟩
    rw [tolerance_of_decimals (by simp [Steps.bracketed]), Steps.componentCount_bracketed hwithin]
    exact Steps.close_nearest h (by decide) withAlpha
  · refine ⟨_, Steps.parse?_hex (Steps.within_nearest h 255 withAlpha), ?_⟩
    rw [tolerance_of_hex rfl, Steps.componentCount_hex]
    exact Steps.close_nearest h (by decide) withAlpha

theorem hex_mem_writings {s : Steps} {three : Bool}
    (h : s.alpha.isSome = true → three = false ∧ (s.color 255).alpha < 1) :
    s.hex ∈ writings (s.color 255) three := by
  have hnearest : Steps.nearest 255 (s.color 255) s.alpha.isSome = s :=
    Steps.nearest_color (by decide)
  unfold writings
  refine List.mem_append_right _ (List.mem_cons.mpr ?_)
  cases halpha : s.alpha.isSome with
  | false => exact .inl (by rw [← halpha, hnearest])
  | true =>
    obtain ⟨rfl, hbelow⟩ := h halpha
    rw [if_pos (by simpa using hbelow), List.mem_singleton, ← halpha, hnearest]
    exact .inr rfl

/-- Six digits or eight are the bytes of a colour. -/
theorem exists_steps_of_digits {ds : List Char} (hds : ∀ d ∈ ds, d ∈ hexAlphabet)
    (hlength : ds.length = 6 ∨ ds.length = 8) :
    ∃ s : Steps, s.Within 255 ∧ SpellsBytes ds s.toList ∧
      ds.map Char.toLower = s.toList.flatMap hexPair ∧ (s.alpha.isSome = true ↔ ds.length = 8) := by
  rcases hlength with hlength | hlength
  · obtain ⟨ns, hns, hle, hspells, hlower⟩ := exists_spelled (k := 3) hds hlength
    obtain ⟨r, g, b, rfl⟩ := List.length_eq_three.mp hns
    exact ⟨⟨r, g, b, none⟩, hle, hspells, hlower, by simp [hlength]⟩
  · obtain ⟨ns, hns, hle, hspells, hlower⟩ := exists_spelled (k := 4) hds hlength
    match ns, hns with
    | [r, g, b, a], _ => exact ⟨⟨r, g, b, some a⟩, hle, hspells, hlower, by simp [hlength]⟩

/-- Alpha is below one unless its digits are `ff`. -/
theorem Steps.alpha_lt_one {s : Steps} (h : s.Within 255) (hsome : s.alpha.isSome = true)
    (hne : (s.toList.flatMap hexPair).drop 6 ≠ ['f', 'f']) : (s.color 255).alpha < 1 := by
  obtain ⟨r, g, b, alpha⟩ := s
  cases alpha with
  | none => cases hsome
  | some a =>
    have hle : a ≤ 255 := h a (by simp [toList])
    have hend : a ≠ 255 := by
      rintro rfl
      exact hne rfl
    have hlt : (a : Rat) < (255 : Nat) := Nat.cast_lt.mpr (lt_of_le_of_ne hle hend)
    exact (div_lt_one (by norm_num)).mpr hlt

/-- **A colour is read back from each of its writings.**  Every presentation of a colour is read as
a colour close to it; and the presentations of the colour of a hexadecimal literal contain the
literal, in lower case. -/
theorem presentations_read_back (line : Line) :
    (∀ c, InUnit c → ∃ ps, presentations exact (c.map .ofRat) line = .ok ps ∧
      ∀ p ∈ ps, ∃ d, parse? exact p.toList = some d ∧
        Close (tolerance p.toList) (componentCount p.toList) d c) ∧
    (∀ ds, (∀ x ∈ ds, x ∈ hexAlphabet) →
      (ds.length = 6 ∨ ds.length = 8 ∧ (ds.drop 6).map Char.toLower ≠ ['f', 'f'] ∧
        ¬("rgb:".toList <:+: line ∧ ¬"rgba:".toList <:+: line)) →
      ∃ c ps, parse? exact ('#' :: ds) = some c ∧ presentations exact (c.map .ofRat) line = .ok ps ∧
        String.ofList ('#' :: ds.map Char.toLower) ∈ ps) := by
  constructor
  · intro c hc
    refine ⟨_, presentations_eq hc line, ?_⟩
    intro p hp
    obtain ⟨cs, hcs, rfl⟩ := List.mem_map.mp hp
    rw [String.toList_ofList]
    exact exists_close_of_mem_writings hc hcs
  · intro ds hds hform
    obtain ⟨s, hwithin, hspells, hlower, height⟩ :=
      exists_steps_of_digits hds (hform.imp_right And.left)
    have hoffered : s.alpha.isSome = true →
        isThreeComponent line = false ∧ (s.color 255).alpha < 1 := by
      intro hsome
      rcases hform with hsix | ⟨-, hnotff, hline⟩
      · rw [height.mp hsome] at hsix
        contradiction
      · rw [List.map_drop, hlower] at hnotff
        refine ⟨?_, Steps.alpha_lt_one hwithin hsome hnotff⟩
        simpa [isThreeComponent, ← Bool.not_eq_true, occursIn_iff] using hline
    refine ⟨_, _, hspells.parse?_eq, presentations_eq (Steps.inUnit_color hwithin) line, ?_⟩
    rw [hlower]
    exact List.mem_map_of_mem (hex_mem_writings hoffered)

/-- The end of the scale, the middle between two hundredths, the least number that `ff` stands for,
and nothing. -/
def edgeColor : Rgba Rat := ⟨1, 1 / 200, 509 / 510, 0⟩

theorem presentations_read_back_edge :
    (∃ ps, presentations exact (edgeColor.map .ofRat) "rgba:".toList = .ok ps ∧
      ∀ p ∈ ps, ∃ d, parse? exact p.toList = some d ∧
        Close (tolerance p.toList) (componentCount p.toList) d edgeColor) ∧
    ∃ c ps, parse? exact "#FFaB0900".toList = some c ∧
      presentations exact (c.map .ofRat) "rgba:".toList = .ok ps ∧ "#ffab0900" ∈ ps := by
  obtain ⟨hcolors, hliterals⟩ := presentations_read_back "rgba:".toList
  have hunit : InUnit edgeColor := by
    constructor <;> norm_num [edgeColor]
  have hdigits : "FFaB0900".toList.all (· ∈ hexAlphabet) = true := by decide
  have hform : "FFaB0900".toList.length = 8 ∧
      ("FFaB0900".toList.drop 6).map Char.toLower ≠ ['f', 'f'] ∧
      ¬("rgb:".toList <:+: "rgba:".toList ∧ ¬"rgba:".toList <:+: "rgba:".toList) := by decide
  refine ⟨hcolors edgeColor hunit, hliterals "FFaB0900".toList ?_ (.inr hform)⟩
  simpa using hdigits

end KvMarkup.Color

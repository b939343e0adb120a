import Mathlib.Algebra.Order.Floor.Ring
import Mathlib.Data.List.DropRight
import Mathlib.Data.Rat.Floor
import Mathlib.Tactic.Positivity
import KvMarkup.Number.Binary64
import KvMarkup.Number.Integer

/-!
# Whole numbers, written and cut

A whole number is written with digits, perhaps in groups with an underscore between them, a sign
before them and white space around the whole.  The reader takes exactly what is written so:

    integer? text = some n   iff   text spells n                          (integer?_eq_some_iff)

A finite floating-point number is cut to the whole number next to it on the side of zero:

    x.truncate? = x.toRat?.map wholePart                                           (truncate?_eq)
-/

namespace KvMarkup.Number

open KvMarkup.Text

/-! ## Digits in groups -/

/-- Digits of any script, where a single underscore may stand between two of them; the second text
has the digits alone. -/
inductive Grouped : List Char → List Char → Prop where
  | last {d : Char} (h : isDigit d = true) : Grouped [d] [d]
  | digit {d : Char} {cs ds : List Char} (h : isDigit d = true) (hg : Grouped cs ds) :
      Grouped (d :: cs) (d :: ds)
  | apart {d : Char} {cs ds : List Char} (h : isDigit d = true) (hg : Grouped cs ds) :
      Grouped (d :: '_' :: cs) (d :: ds)

theorem isDigit_underscore : isDigit '_' = false := by decide

theorem Grouped.exists_cons {cs ds : List Char} (h : Grouped cs ds) :
    ∃ d rest, cs = d :: rest ∧ isDigit d = true := by
  cases h with
  | last h | digit h | apart h => exact ⟨_, _, rfl, h⟩

theorem groupedDigits?_cons {d : Char} (h : isDigit d = true) (afterDigit : Bool)
    (cs : List Char) :
    groupedDigits? afterDigit (d :: cs) = (groupedDigits? true cs).map (d :: ·) := by
  have hd : d ≠ '_' := by
    rintro rfl
    rw [isDigit_underscore] at h
    cases h
  rw [groupedDigits?, if_neg (by simpa using hd), if_pos h]

/-- The reader takes digits in groups; behind a digit it may also stop or take an underscore. -/
theorem groupedDigits?_eq_some_iff {afterDigit : Bool} {cs ds : List Char} :
    groupedDigits? afterDigit cs = some ds ↔
      Grouped cs ds ∨ afterDigit = true ∧
        (cs = [] ∧ ds = [] ∨ ∃ rest, cs = '_' :: rest ∧ Grouped rest ds) := by
  induction cs generalizing afterDigit ds with
  | nil =>
    have hnot : ¬Grouped [] ds := nofun
    cases afterDigit <;> simp [groupedDigits?, hnot, eq_comm]
  | cons c cs ih =>
    by_cases hc : c = '_'
    · subst hc
      have hnot : ¬Grouped ('_' :: cs) ds := by
        intro h
        obtain ⟨d, rest, heq, hd⟩ := h.exists_cons
        rw [← (List.cons.inj heq).1, isDigit_underscore] at hd
        cases hd
      cases afterDigit <;> simp [groupedDigits?, hnot, ih]
    · cases hd : isDigit c with
      | false =>
        have hnot : ¬Grouped (c :: cs) ds := by
          intro h
          obtain ⟨d, rest, heq, hd'⟩ := h.exists_cons
          rw [← (List.cons.inj heq).1, hd] at hd'
          cases hd'
        simp [groupedDigits?, hc, hd, hnot]
      | true =>
        rw [groupedDigits?_cons hd, Option.map_eq_some_iff]
        constructor
        · rintro ⟨ds, h, rfl⟩
          rcases ih.mp h with hg | ⟨-, ⟨rfl, rfl⟩ | ⟨rest, rfl, hg⟩⟩
          · exact .inl (.digit hd hg)
          · exact .inl (.last hd)
          · exact .inl (.apart hd hg)
        · rintro (h | ⟨-, ⟨heq, -⟩ | ⟨rest, heq, -⟩⟩)
          · cases h with
            | last => exact ⟨[], ih.mpr (.inr ⟨rfl, .inl ⟨rfl, rfl⟩⟩), rfl⟩
            | digit _ hg => exact ⟨_, ih.mpr (.inl hg), rfl⟩
            | apart _ hg => exact ⟨_, ih.mpr (.inr ⟨rfl, .inr ⟨_, rfl, hg⟩⟩), rfl⟩
          · cases heq
          · exact absurd (List.cons.inj heq).1 hc

/-- The text of a number without a sign. -/
def SpellsNatural (cs : List Char) (n : Nat) : Prop :=
  ∃ ds, Grouped cs ds ∧ ds.length ≤ maxDigits ∧ n = digitsValue ds

theorem natural?_eq_some_iff {cs : List Char} {n : Nat} :
    natural? cs = some n ↔ SpellsNatural cs n := by
  have hgrouped : ∀ ds, groupedDigits? false cs = some ds ↔ Grouped cs ds := by
    simp [groupedDigits?_eq_some_iff]
  simp only [natural?, SpellsNatural, Option.bind_eq_bind, Option.bind_eq_some_iff, hgrouped]
  refine exists_congr fun ds => and_congr_right fun _ => ?_
  split
  · next hlong => simp [Nat.not_le.mpr hlong]
  · next hshort => simp [Nat.not_lt.mp hshort, eq_comm]

/-! ## White space around a number -/

theorem digitFrom?_eq_some {zeros : List Nat} {c d : Nat} (h : digitFrom? zeros c = some d) :
    ∃ z ∈ zeros, c = z + d := by
  induction zeros with
  | nil => cases h
  | cons z zeros ih =>
    rw [digitFrom?] at h
    split at h
    · cases h
    · next hz =>
      split at h
      · obtain rfl := Option.some.inj h
        exact ⟨z, List.mem_cons_self, by omega⟩
      · obtain ⟨z', hz', heq⟩ := ih h
        exact ⟨z', List.mem_cons_of_mem _ hz', heq⟩

/-- A digit of any script is no white space. -/
theorem isSpaceAround_of_isDigit {c : Char} (h : isDigit c = true) : isSpaceAround c = false := by
  have hscripts : ∀ z ∈ zeroDigits, ∀ d < 10, spaceRanges.contains (z + d) = false := by decide
  obtain ⟨d, hd⟩ := Option.isSome_iff_exists.mp h
  obtain ⟨z, hz, heq⟩ := digitFrom?_eq_some hd
  rw [isSpaceAround, isSpace, heq, hscripts z hz d (digitValue?_lt hd), Bool.false_and]

theorem exists_eq_append_trimAround (text : List Char) :
    ∃ before behind, text = before ++ (trimAround text ++ behind) ∧
      (∀ c ∈ before, isSpaceAround c = true) ∧ ∀ c ∈ behind, isSpaceAround c = true := by
  obtain ⟨rest, hrest⟩ : ∃ rest, text.dropWhile isSpaceAround = rest := ⟨_, rfl⟩
  refine ⟨text.takeWhile isSpaceAround, rest.rtakeWhile isSpaceAround, ?_, ?_, ?_⟩
  · rw [trimAround, hrest]
    show text = _ ++ (rest.rdropWhile isSpaceAround ++ _)
    rw [List.rdropWhile_append_rtakeWhile, ← hrest, List.takeWhile_append_dropWhile]
  · exact List.all_eq_true.mp List.all_takeWhile
  · intro c hc
    exact List.mem_rtakeWhile_imp hc

theorem trimAround_eq {before core behind : List Char} (hne : core ≠ [])
    (hbefore : ∀ c ∈ before, isSpaceAround c = true)
    (hbehind : ∀ c ∈ behind, isSpaceAround c = true)
    (hhead : ∀ c ∈ core.head?, isSpaceAround c = false)
    (hlast : ∀ c ∈ core.getLast?, isSpaceAround c = false) :
    trimAround (before ++ (core ++ behind)) = core := by
  have hstart : (core ++ behind).dropWhile isSpaceAround = core ++ behind := by
    obtain ⟨c, cs, rfl⟩ := List.exists_cons_of_ne_nil hne
    rw [List.cons_append, List.dropWhile_cons_of_neg (by simp [hhead c rfl])]
  have hend : core.reverse.dropWhile isSpaceAround = core.reverse := by
    obtain ⟨cs, c, rfl⟩ := (List.eq_nil_or_concat' core).resolve_left hne
    rw [List.reverse_append, List.reverse_singleton, List.singleton_append,
      List.dropWhile_cons_of_neg (by simp [hlast c (by simp)])]
  have hbehind' : ∀ c ∈ behind.reverse, isSpaceAround c = true := by simpa using hbehind
  rw [trimAround, List.dropWhile_append_of_pos hbefore, hstart, List.reverse_append,
    List.dropWhile_append_of_pos hbehind', hend, List.reverse_reverse]

/-! ## Whole numbers in texts -/

/-- A number with or without a sign. -/
inductive SpellsSigned : List Char → Int → Prop where
  | bare {cs : List Char} {n : Nat} (h : SpellsNatural cs n) : SpellsSigned cs n
  | plus {cs : List Char} {n : Nat} (h : SpellsNatural cs n) : SpellsSigned ('+' :: cs) n
  | minus {cs : List Char} {n : Nat} (h : SpellsNatural cs n) : SpellsSigned ('-' :: cs) (-n)

/-- A text that is a whole number, perhaps with white space around it. -/
def Spells (text : List Char) (n : Int) : Prop :=
  ∃ before core behind, text = before ++ (core ++ behind) ∧
    (∀ c ∈ before, isSpaceAround c = true) ∧ (∀ c ∈ behind, isSpaceAround c = true) ∧
    SpellsSigned core n

theorem Grouped.getLast? {cs ds : List Char} (h : Grouped cs ds) :
    ∃ d, cs.getLast? = some d ∧ isDigit d = true := by
  induction h with
  | last h => exact ⟨_, rfl, h⟩
  | @digit d cs _ _ hg ih =>
    obtain ⟨c, rest, rfl, -⟩ := hg.exists_cons
    simpa using ih
  | @apart d cs _ _ hg ih =>
    obtain ⟨c, rest, rfl, -⟩ := hg.exists_cons
    simpa using ih

theorem SpellsNatural.exists_ends {cs : List Char} {n : Nat} (h : SpellsNatural cs n) :
    (∃ d rest, cs = d :: rest ∧ isDigit d = true) ∧
      ∃ d, cs.getLast? = some d ∧ isDigit d = true := by
  obtain ⟨ds, hg, -⟩ := h
  exact ⟨hg.exists_cons, hg.getLast?⟩

/-- A number neither begins nor ends with white space. -/
theorem SpellsSigned.ends {cs : List Char} {n : Int} (h : SpellsSigned cs n) :
    cs ≠ [] ∧ (∀ c ∈ cs.head?, isSpaceAround c = false) ∧
      ∀ c ∈ cs.getLast?, isSpaceAround c = false := by
  cases h with
  | bare h =>
    obtain ⟨⟨d, rest, rfl, hd⟩, e, hlast, he⟩ := h.exists_ends
    simp [hlast, isSpaceAround_of_isDigit hd, isSpaceAround_of_isDigit he]
  | plus h | minus h =>
    obtain ⟨⟨d, rest, rfl, hd⟩, e, hlast, he⟩ := h.exists_ends
    rw [List.getLast?_cons_cons, hlast]
    simp [isSpaceAround_of_isDigit he]
    decide

theorem not_spellsNatural_of_sign {c : Char} {cs : List Char} {n : Nat} (hc : isDigit c = false) :
    ¬SpellsNatural (c :: cs) n := by
  intro h
  obtain ⟨⟨d, rest, heq, hd⟩, -⟩ := h.exists_ends
  rw [← (List.cons.inj heq).1, hc] at hd
  cases hd

theorem map_natural?_eq_some_iff {cs : List Char} {f : Int → Int} {n : Int} :
    (natural? cs >>= fun m => pure (m : Int)).map f = some n ↔
      ∃ m, SpellsNatural cs m ∧ f m = n := by
  simp only [← natural?_eq_some_iff]
  cases natural? cs <;> simp

theorem integer?_of_trimAround {text core : List Char} {n : Int} (hcore : trimAround text = core) :
    integer? text = some n ↔ SpellsSigned core n := by
  unfold integer?
  rw [hcore]
  split
  · next cs =>
    rw [map_natural?_eq_some_iff]
    constructor
    · rintro ⟨m, h, rfl⟩
      exact .minus h
    · intro h
      cases h with
      | bare h => exact absurd h (not_spellsNatural_of_sign (by decide))
      | minus h => exact ⟨_, h, rfl⟩
  · next cs =>
    rw [map_natural?_eq_some_iff]
    constructor
    · rintro ⟨m, h, rfl⟩
      exact .plus h
    · intro h
      cases h with
      | bare h => exact absurd h (not_spellsNatural_of_sign (by decide))
      | plus h => exact ⟨_, h, rfl⟩
  · next hminus hplus =>
    rw [map_natural?_eq_some_iff]
    constructor
    · rintro ⟨m, h, rfl⟩
      exact .bare h
    · intro h
      cases h with
      | bare h => exact ⟨_, h, rfl⟩
      | plus => exact absurd rfl (hplus _)
      | minus => exact absurd rfl (hminus _)

/-- A text is read as a whole number exactly when it spells it. -/
theorem integer?_eq_some_iff {text : List Char} {n : Int} :
    integer? text = some n ↔ Spells text n := by
  constructor
  · intro h
    obtain ⟨before, behind, heq, hbefore, hbehind⟩ := exists_eq_append_trimAround text
    exact ⟨before, _, behind, heq, hbefore, hbehind, (integer?_of_trimAround rfl).mp h⟩
  · rintro ⟨before, core, behind, rfl, hbefore, hbehind, h⟩
    obtain ⟨hne, hhead, hlast⟩ := h.ends
    exact (integer?_of_trimAround (trimAround_eq hne hbefore hbehind hhead hlast)).mpr h

/-- Digits of any script, in groups, with a sign. -/
example : integer? "\t-1_0٣ ".toList = some (-103) := by decide

/-! ## The whole part of a number -/

/-- The whole number next to a number, on the side of zero. -/
def wholePart (r : Rat) : Int := if r < 0 then ⌈r⌉ else ⌊r⌋

theorem wholePart_natCast_div (m k : Nat) : wholePart ((m : Rat) / k) = (m / k : Nat) := by
  have hnonneg : (0 : Rat) ≤ m / k := by positivity
  rw [wholePart, if_neg (not_lt.mpr hnonneg), Rat.floor_natCast_div_natCast]
  rfl

theorem wholePart_neg (r : Rat) : wholePart (-r) = -wholePart r := by
  unfold wholePart
  rcases lt_trichotomy r 0 with h | rfl | h
  · rw [if_neg (by simpa using h.le), if_pos h, Int.floor_neg]
  · simp
  · rw [if_pos (by simpa using h), if_neg (not_lt.mpr h.le), Int.ceil_neg]

/-- A finite floating-point number is cut to its whole part; the others have none. -/
theorem truncate?_eq (x : Binary64) : x.truncate? = x.toRat?.map wholePart := by
  unfold Binary64.truncate? Binary64.toRat?
  split
  · next negative m e _ =>
    have hmagnitude : wholePart (if e < 0 then (m : Rat) / ((Nat.pow 2 e.natAbs : Nat) : Rat)
        else ((m * Nat.pow 2 e.natAbs : Nat) : Rat)) =
          ((if e < 0 then m / Nat.pow 2 e.natAbs else m * Nat.pow 2 e.natAbs : Nat) : Int) := by
      split
      · exact wholePart_natCast_div m _
      · have := wholePart_natCast_div (m * Nat.pow 2 e.natAbs) 1
        rwa [Nat.cast_one, div_one, Nat.div_one] at this
    rw [Option.map_some, Option.some.injEq]
    cases negative with
    | true => exact (congrArg Neg.neg hmagnitude).symm.trans (wholePart_neg _).symm
    | false => exact hmagnitude.symm
  · rfl

end KvMarkup.Number

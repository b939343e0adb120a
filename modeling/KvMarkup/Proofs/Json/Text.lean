import KvMarkup.Json.Decode
import KvMarkup.Json.Print

/-!
# Texts in quotes

A text that is written with its quotes, backslashes and control characters escaped is read back as
it was, whatever follows it:

    string (escapeText s ++ rest) = (s, rest)                                  (string_escapeText)

The reader takes the escaped characters one by one, and each of them gives one character of the text
(`stringBody_plainChar`).
-/

namespace KvMarkup.Json

open KvMarkup.Text

/-! ## One character -/

theorem hexCode?_hexDigits : ∀ n < 0x20, (hexDigits 4 n).length = 4 ∧
    hexCode? (hexDigits 4 n) = some n := by
  decide

/-- A code that is no half of a pair is read as its character, if anything comes after it. -/
theorem codeEscape_of_code {ds cs : List Char} {n k : Nat} (hlength : ds.length = 4)
    (hcode : hexCode? ds = some n) (hn : n < 0xD800) (hcs : cs ≠ []) :
    codeEscape ⟨'u' :: (ds ++ cs), k⟩ = .ok (Char.ofNat n, ⟨cs, k + 5⟩) := by
  have hdrop : ('u' :: (ds ++ cs)).drop 5 = cs := by
    rw [List.drop_succ_cons, ← hlength, List.drop_left]
  have htake : (('u' :: (ds ++ cs)).drop 1).take 4 = ds := by
    rw [List.drop_succ_cons, List.drop_zero, ← hlength, List.take_left]
  have hchar : codeChar n = Char.ofNat n := if_neg (by simp; omega)
  have hadvance : Rest.advance ⟨'u' :: (ds ++ cs), k⟩ 5 = ⟨cs, k + 5⟩ := by
    rw [Rest.advance, hdrop]
  have hhigh : ¬0xD800 ≤ n := by omega
  unfold codeEscape
  simp only [hdrop, htake, hcode, hchar, hadvance]
  rw [if_neg (by simpa using hcs)]
  split <;> simp [hhigh]

theorem stringBody_code (start fuel k : Nat) {ds cs : List Char} {n : Nat}
    (hlength : ds.length = 4) (hcode : hexCode? ds = some n) (hn : n < 0xD800) (hcs : cs ≠ [])
    (done : List Char) :
    stringBody start (fuel + 1) ⟨'\\' :: 'u' :: (ds ++ cs), k⟩ done =
      stringBody start fuel ⟨cs, k + 6⟩ (Char.ofNat n :: done) := by
  rw [stringBody]
  show (codeEscape ⟨'u' :: (ds ++ cs), k + 1⟩ >>= _) = _
  rw [codeEscape_of_code hlength hcode hn hcs]
  rfl

theorem stringBody_plain (start fuel k : Nat) {c : Char} {cs done : List Char} (hquote : c ≠ '"')
    (hslash : c ≠ '\\') (hspace : ¬c.toNat < 0x20) :
    stringBody start (fuel + 1) ⟨c :: cs, k⟩ done =
      stringBody start fuel ⟨cs, k + 1⟩ (c :: done) := by
  conv => lhs; unfold stringBody
  split
  · next heq => cases heq
  · next heq => exact absurd (List.cons.inj heq).1 hquote
  · next heq => exact absurd (List.cons.inj heq).1 hslash
  · next heq => exact absurd (List.cons.inj heq).1 hslash
  · next heq => exact absurd (List.cons.inj heq).1 hslash
  · next heq =>
    obtain ⟨rfl, rfl⟩ := List.cons.inj heq
    rw [if_neg hspace]
    rfl

/-- What is written for a character is read as that character. -/
theorem stringBody_plainChar (start fuel k : Nat) (c : Char) {cs : List Char} (hcs : cs ≠ [])
    (done : List Char) :
    stringBody start (fuel + 1) ⟨plainChar c ++ cs, k⟩ done =
      stringBody start fuel ⟨cs, k + (plainChar c).length⟩ (c :: done) := by
  unfold plainChar
  split
  · next esc h =>
    -- an escape of two characters
    unfold shortForm? at h
    split at h <;> cases h <;> rfl
  · next h =>
    split
    · next hcontrol =>
      obtain ⟨hlength, hcode⟩ := hexCode?_hexDigits c.toNat hcontrol
      have hstep := stringBody_code start fuel k hlength hcode (by omega) hcs done
      rw [Char.ofNat_toNat] at hstep
      rw [codeForm, List.length_cons, List.length_cons, hlength]
      exact hstep
    · next hspace =>
      have hquote : c ≠ '"' := by
        rintro rfl
        cases h
      have hslash : c ≠ '\\' := by
        rintro rfl
        cases h
      exact stringBody_plain start fuel k hquote hslash hspace

/-! ## A whole text -/

theorem stringBody_escaped (start : Nat) (rest : List Char) (s : List Char) :
    ∀ (fuel k : Nat) (done : List Char), s.length < fuel →
      stringBody start fuel ⟨s.flatMap plainChar ++ '"' :: rest, k⟩ done =
        .ok (done.reverse ++ s, ⟨rest, k + (s.flatMap plainChar).length + 1⟩) := by
  induction s with
  | nil =>
    intro fuel k done hfuel
    obtain ⟨fuel, rfl⟩ := Nat.exists_eq_succ_of_ne_zero (Nat.ne_of_gt hfuel)
    rw [List.append_nil]
    rfl
  | cons c s ih =>
    intro fuel k done hfuel
    obtain ⟨fuel, rfl⟩ := Nat.exists_eq_succ_of_ne_zero (Nat.ne_of_gt (Nat.zero_lt_of_lt hfuel))
    rw [List.length_cons] at hfuel
    rw [List.flatMap_cons, List.append_assoc, stringBody_plainChar start fuel k c (by simp),
      ih _ _ _ (by omega), List.reverse_cons, List.append_assoc, List.length_append]
    simp only [List.singleton_append, Nat.add_assoc]

theorem length_le_escaped (s : List Char) : s.length ≤ (s.flatMap plainChar).length := by
  have hone : ∀ c, 1 ≤ (plainChar c).length := by
    intro c
    unfold plainChar
    split
    · next esc h =>
      unfold shortForm? at h
      split at h <;> cases h <;> simp
    · split <;> simp [codeForm]
  induction s with
  | nil => exact Nat.le_refl 0
  | cons c s ih =>
    have := hone c
    rw [List.flatMap_cons, List.length_append, List.length_cons]
    omega

theorem toList_escapeText (s : String) :
    (escapeText s).toList = '"' :: (s.toList.flatMap plainChar ++ ['"']) := by
  rw [escapeText, String.toList_ofList]
  rfl

/-- **An escaped text is read back as it was,** whatever stands behind it. -/
theorem string_escapeText (s : String) (rest : List Char) (k : Nat) :
    string ⟨(escapeText s).toList ++ rest, k⟩ =
      .ok (s, ⟨rest, k + (escapeText s).toList.length⟩) := by
  have hchars : (escapeText s).toList ++ rest =
      '"' :: (s.toList.flatMap plainChar ++ '"' :: rest) := by
    rw [toList_escapeText]
    simp
  have hlength : (escapeText s).toList.length = (s.toList.flatMap plainChar).length + 2 := by
    rw [toList_escapeText, List.length_cons, List.length_append]
    rfl
  have hfuel : s.toList.length < ((escapeText s).toList ++ rest).length + 1 := by
    have := length_le_escaped s.toList
    rw [List.length_append, hlength]
    omega
  rw [hchars] at hfuel ⊢
  rw [hlength, string]
  show (stringBody k _ ⟨s.toList.flatMap plainChar ++ '"' :: rest, k + 1⟩ [] >>= _) = _
  rw [stringBody_escaped k rest s.toList _ (k + 1) [] hfuel, List.reverse_nil, List.nil_append]
  show Except.ok (String.ofList s.toList, _) = _
  rw [String.ofList_toList, Nat.add_right_comm k 1, Nat.add_assoc, Nat.add_assoc]

/-- Control characters are escaped by their codes, and other scripts stand as they are. -/
example : escapeText "é\"\n\x01" = "\"é\\\"\\n\\u0001\"" := by decide

end KvMarkup.Json

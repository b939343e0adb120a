import Mathlib.Algebra.Order.Floor.Semifield
import Mathlib.Data.Rat.Floor
import Mathlib.Tactic.FieldSimp
import Mathlib.Tactic.Linarith
import Mathlib.Tactic.NormNum
import Mathlib.Tactic.Positivity
import KvMarkup.Number.Binary64

/-!
# Numbers of a fixed number of places

A number from zero to one is written on a scale of `k` steps by the nearest step, a half going up:

    |step k r / k - r| ≤ 1 / (2 * k)                                     (abs_step_div_sub_le)
    step k (n / k) = n                                                        (step_div)

A step is written with a fixed number of digits, zeros in front (`padded_toDigits`).
-/

namespace KvMarkup.Number

/-! ## The nearest step -/

/-- The step nearest to a number on a scale of `k` steps, a half going up. -/
def step (k : Nat) (r : Rat) : Nat := ⌊r * k + 1 / 2⌋₊

section
variable {k : Nat} {r : Rat}

theorem step_le (h0 : 0 ≤ r) (h1 : r ≤ 1) : step k r ≤ k := by
  have hk : (0 : Rat) ≤ k := Nat.cast_nonneg k
  have hle : r * k ≤ k := mul_le_of_le_one_left hk h1
  rw [step, ← Nat.lt_succ_iff, Nat.floor_lt (by positivity)]
  push_cast
  linarith

theorem abs_step_div_sub_le (hk : 0 < k) (h0 : 0 ≤ r) :
    |(step k r : Rat) / k - r| ≤ 1 / (2 * k) := by
  have hk' : (0 : Rat) < k := Nat.cast_pos.mpr hk
  have hlow := Nat.floor_le (show 0 ≤ r * k + 1 / 2 by positivity)
  have hhigh := Nat.lt_floor_add_one (r * k + 1 / 2)
  have hdiff : (step k r : Rat) / k - r = ((step k r : Rat) - r * k) / k := by
    field_simp
  have habs : |(step k r : Rat) - r * k| ≤ 1 / 2 := by
    rw [step, abs_le]
    constructor <;> linarith
  rw [hdiff, abs_div, abs_of_pos hk', div_le_iff₀ hk']
  calc |(step k r : Rat) - r * k| ≤ 1 / 2 := habs
    _ = 1 / (2 * k) * k := by field_simp

theorem step_div (hk : 0 < k) (n : Nat) : step k (n / k) = n := by
  have hk' : (k : Rat) ≠ 0 := Nat.cast_ne_zero.mpr hk.ne'
  have hhalf : ⌊(1 / 2 : Rat)⌋₊ = 0 := by
    rw [Nat.floor_eq_zero]
    norm_num
  rw [step, div_mul_cancel₀ _ hk', add_comm, Nat.floor_add_natCast (by norm_num), hhalf,
    Nat.zero_add]

theorem roundHalfUp_eq_step (h0 : 0 ≤ r) :
    roundHalfUp (r.num.natAbs * k) r.den = step k r := by
  have hnum : ((r.num.natAbs : Nat) : Rat) = r.num := by
    rw [Nat.cast_natAbs, abs_of_nonneg (Rat.num_nonneg.mpr h0)]
  have hden : (r.den : Rat) ≠ 0 := Nat.cast_ne_zero.mpr r.den_nz
  have hquotient : r * k + 1 / 2 =
      ((2 * (r.num.natAbs * k) + r.den : Nat) : Rat) / ((2 * r.den : Nat) : Rat) := by
    push_cast
    rw [hnum]
    conv_lhs => rw [← Rat.num_div_den r]
    field_simp
  rw [step, hquotient, Nat.floor_div_eq_div, roundHalfUp]

theorem floor_eq_step (h0 : 0 ≤ r) : (r * k + 1 / 2).floor = step k r := by
  rw [step, Int.natCast_floor_eq_floor (by positivity)]
  rfl

end

/-! ## Digits -/

/-- The last `w` digits of a number in base `b`. -/
def places (b : Nat) : Nat → Nat → List Char
  | 0, _ => []
  | w + 1, n => places b w (n / b) ++ [(n % b).digitChar]

theorem places_zero (b w : Nat) : places b w 0 = List.replicate w '0' := by
  induction w with
  | zero => rfl
  | succ w ih =>
    rw [places, Nat.zero_div, ih, Nat.zero_mod, List.replicate_succ']
    rfl

/-- A number is written in `w` places by putting zeros in front of its digits. -/
theorem padded_toDigits {b w n : Nat} (hb : 1 < b) (h : n < b ^ (w + 1)) :
    List.replicate (w + 1 - (Nat.toDigits b n).length) '0' ++ Nat.toDigits b n =
      places b (w + 1) n := by
  induction w generalizing n with
  | zero =>
    have hlt : n < b := by simpa using h
    rw [Nat.toDigits_of_lt_base hlt, places, places, Nat.mod_eq_of_lt hlt]
    rfl
  | succ w ih =>
    by_cases hlt : n < b
    · rw [Nat.toDigits_of_lt_base hlt, places, Nat.div_eq_of_lt hlt, Nat.mod_eq_of_lt hlt,
        places_zero]
      rfl
    · have hdiv : n / b < b ^ (w + 1) := by
        rw [Nat.div_lt_iff_lt_mul (by omega)]
        rwa [Nat.pow_succ] at h
      rw [Nat.toDigits_of_base_le hb (by omega), places, ← ih hdiv, List.length_append,
        List.length_singleton, Nat.add_sub_add_right, List.append_assoc]

end KvMarkup.Number

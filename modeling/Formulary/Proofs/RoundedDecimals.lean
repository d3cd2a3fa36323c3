import Formulary.Number.Numeral
import Mathlib.Algebra.Order.Field.Power
import Mathlib.Data.Rat.Cast.Order
import Mathlib.Tactic.FieldSimp
import Mathlib.Tactic.Linarith
import Mathlib.Tactic.NormNum
import Mathlib.Tactic.Positivity

/-!
# Rounding to decimal places

Magnitudes and decimals are rational numbers. Here a magnitude is rounded to a multiple of a power
of ten, at a fixed place or so many places after its first digit.

* `d.toRat`, `x.toRat`: the number that a decimal is, without and with a sign.
* `ofUnits u`: the number that `u` units are.
* `rounded k u`: the multiple of `10 ^ k` nearest to `u` units.
* `significant n u`: `u` units rounded at the place of their `n`-th digit.

Results.
* Rounding at a place keeps the order (`rounded_mono`), and what is not above or not below a
  multiple of `10 ^ k` is not rounded beyond it (`coefficient_rounded_le`,
  `le_coefficient_rounded`). It is off by at most half of `10 ^ k` (`abs_rounded_sub_le`).
* `order u` is one more than the exponent of the first digit (`order_bounds`).
* Rounding at the place of a digit keeps the order, although the place moves with the number
  (`significant_mono`).
-/

namespace Formulary.Number

/-! ## 1. Exact numbers -/

/-- The number that the decimal is. -/
def Decimal.toRat (d : Decimal) : ℚ :=
  d.coefficient * 10 ^ d.exponent

/-- The number that the decimal is with its sign. -/
def Signed.toRat (x : Signed) : ℚ :=
  if x.negative then -x.magnitude.toRat else x.magnitude.toRat

/-- The number that `u` units are. -/
def ofUnits (u : Nat) : ℚ :=
  u / unitsInOne

variable {k : Int} {u u' : Nat}

theorem Decimal.toRat_nonneg (d : Decimal) : 0 ≤ d.toRat := by
  unfold toRat
  positivity

theorem ofUnits_mono (h : u ≤ u') : ofUnits u ≤ ofUnits u' :=
  div_le_div_of_nonneg_right (Nat.cast_le.2 h) (Nat.cast_nonneg _)

theorem cast_pow_mul (n : Nat) (e : Int) : ((10 ^ n : Nat) : ℚ) * 10 ^ e = 10 ^ (n + e) := by
  rw [Nat.cast_pow, Nat.cast_ofNat, ← zpow_natCast, ← zpow_add₀ (by norm_num)]

theorem unitsInOne_ne_zero : (unitsInOne : ℚ) ≠ 0 :=
  Nat.cast_ne_zero.2 (Nat.ne_of_gt unitsInOne_pos)

/-! ## 2. Rounding at a place -/

/-- `u` units in multiples of `10 ^ k`, as a quotient. -/
def scaled (k : Int) (u : Nat) : Nat × Nat :=
  (u * 10 ^ (-k).toNat, unitsInOne * 10 ^ k.toNat)

/-- The multiple of `10 ^ k` nearest to `u` units, and of two the even one. -/
def rounded (k : Int) (u : Nat) : Decimal :=
  ⟨roundDiv .even (scaled k u).1 (scaled k u).2, k⟩

theorem scaled_pos (k : Int) (u : Nat) : 0 < (scaled k u).2 :=
  Nat.mul_pos unitsInOne_pos (Nat.pow_pos (by decide))

theorem scaled_div (k : Int) (u : Nat) :
    ((scaled k u).1 : ℚ) / (scaled k u).2 = ofUnits u / 10 ^ k := by
  have hk : (10 : ℚ) ^ k = 10 ^ k.toNat / 10 ^ (-k).toNat := by
    rw [← zpow_natCast, ← zpow_natCast, ← zpow_sub₀ (by norm_num)]
    congr 1
    omega
  have hone := unitsInOne_ne_zero
  rw [hk, ofUnits, scaled]
  push_cast
  field_simp

/-- In places after the point, only the units are multiplied. -/
theorem scaled_neg (n u : Nat) : scaled (-(n : Int)) u = (u * 10 ^ n, unitsInOne) := by
  rw [scaled, neg_neg, Int.toNat_natCast, Int.toNat_neg_natCast, pow_zero, mul_one]

/-- The numbers that are multiples of `10 ^ k` are compared with `u` units as whole numbers. -/
theorem mul_pow_le_iff (c : Nat) :
    (c : ℚ) * 10 ^ k ≤ ofUnits u ↔ c * (scaled k u).2 ≤ (scaled k u).1 := by
  have hpos : (0 : ℚ) < (scaled k u).2 := Nat.cast_pos.2 (scaled_pos k u)
  rw [← le_div_iff₀ (by positivity), ← scaled_div, le_div_iff₀ hpos, ← Nat.cast_mul, Nat.cast_le]

theorem le_mul_pow_iff (c : Nat) :
    ofUnits u ≤ (c : ℚ) * 10 ^ k ↔ (scaled k u).1 ≤ c * (scaled k u).2 := by
  have hpos : (0 : ℚ) < (scaled k u).2 := Nat.cast_pos.2 (scaled_pos k u)
  rw [← div_le_iff₀ (by positivity), ← scaled_div, div_le_iff₀ hpos, ← Nat.cast_mul, Nat.cast_le]

/-- A larger magnitude is not rounded to less. -/
theorem rounded_mono (h : u ≤ u') : (rounded k u).toRat ≤ (rounded k u').toRat := by
  have hround := roundDiv_mono .even (scaled_pos k u) (Nat.mul_le_mul_right (10 ^ (-k).toNat) h)
  exact mul_le_mul_of_nonneg_right (Nat.cast_le.2 hround) (by positivity)

/-- What is not above a multiple of `10 ^ k` is not rounded above it. -/
theorem coefficient_rounded_le {c : Nat} (h : ofUnits u ≤ c * 10 ^ k) :
    (rounded k u).coefficient ≤ c := by
  have hround := roundDiv_mono .even (scaled_pos k u) ((le_mul_pow_iff c).1 h)
  rwa [roundDiv_mul_self .even (scaled_pos k u)] at hround

/-- What is not below a multiple of `10 ^ k` is not rounded below it. -/
theorem le_coefficient_rounded {c : Nat} (h : c * 10 ^ k ≤ ofUnits u) :
    c ≤ (rounded k u).coefficient := by
  have hround := roundDiv_mono .even (scaled_pos k u) ((mul_pow_le_iff c).1 h)
  rwa [roundDiv_mul_self .even (scaled_pos k u)] at hround

theorem toRat_rounded_zero (k : Int) : (rounded k 0).toRat = 0 := by
  have hzero : (rounded k 0).coefficient ≤ 0 :=
    coefficient_rounded_le (by rw [ofUnits, Nat.cast_zero, zero_div, zero_mul])
  rw [Decimal.toRat, Nat.le_zero.1 hzero, Nat.cast_zero, zero_mul]

theorem abs_roundDiv_sub_le (tie : Tie) {a b : Nat} (hb : 0 < b) :
    |(roundDiv tie a b : ℚ) - a / b| ≤ 1 / 2 := by
  have hpos : (0 : ℚ) < b := Nat.cast_pos.2 hb
  have habove : ((2 * (b * roundDiv tie a b) : Nat) : ℚ) ≤ (2 * a + b : Nat) :=
    Nat.cast_le.2 (roundDiv_le tie hb)
  have hbelow : ((2 * a : Nat) : ℚ) ≤ (2 * (b * roundDiv tie a b) + b : Nat) :=
    Nat.cast_le.2 (le_roundDiv tie hb)
  push_cast at habove hbelow
  have hquotient : (roundDiv tie a b : ℚ) - a / b = (b * roundDiv tie a b - a) / b := by
    rw [sub_div, mul_div_cancel_left₀ _ hpos.ne']
  rw [hquotient, abs_div, abs_of_pos hpos, div_le_iff₀ hpos, abs_sub_le_iff]
  constructor <;> linarith

/-- Rounding to a multiple of `10 ^ k` is off by at most half of `10 ^ k`. -/
theorem abs_rounded_sub_le (k : Int) (u : Nat) :
    |(rounded k u).toRat - ofUnits u| ≤ 1 / 2 * 10 ^ k := by
  have hpow : (0 : ℚ) < 10 ^ k := by positivity
  have hquotient := abs_roundDiv_sub_le .even (a := (scaled k u).1) (scaled_pos k u)
  rw [scaled_div] at hquotient
  have hscale : (rounded k u).toRat - ofUnits u =
      ((rounded k u).coefficient - ofUnits u / 10 ^ k) * 10 ^ k := by
    rw [sub_mul, div_mul_cancel₀ _ hpow.ne']
    rfl
  rw [hscale, abs_mul, abs_of_pos hpow]
  exact mul_le_mul_of_nonneg_right hquotient hpow.le

/-! ## 3. The place of the first digit -/

namespace OrderLemmas

/-- A number has `n` digits if it is below `10 ^ n` and not below `10 ^ (n - 1)`. -/
theorem length_toDigits_bounds {n : Nat} (hn : 0 < n) :
    10 ^ ((Nat.toDigits 10 n).length - 1) ≤ n ∧ n < 10 ^ (Nat.toDigits 10 n).length := by
  have hlength : 0 < (Nat.toDigits 10 n).length := List.length_pos_of_ne_nil Nat.toDigits_ne_nil
  refine ⟨?_, (Nat.length_toDigits_le_iff (by decide) hlength).1 (Nat.le_refl _)⟩
  rcases Nat.eq_zero_or_pos ((Nat.toDigits 10 n).length - 1) with hzero | hpos
  · rw [hzero]
    exact hn
  · refine Nat.le_of_not_lt fun hlt => ?_
    have hle := (Nat.length_toDigits_le_iff (by decide) hpos).2 hlt
    omega

theorem unitsInOne_le : unitsInOne ≤ 10 ^ 324 := by
  have hplaces : unitPlaces = 1074 := by rw [unitPlaces]
  rw [unitsInOne, hplaces]
  decide +kernel

end OrderLemmas

open OrderLemmas

/-- `order u` is one more than the exponent of the first digit of `u` units. -/
theorem order_bounds (hu : 0 < u) :
    (10 : ℚ) ^ (order u - 1) ≤ ofUnits u ∧ ofUnits u < 10 ^ order u := by
  have hpos : 0 < u * 10 ^ 324 / unitsInOne := by
    refine Nat.div_pos ?_ unitsInOne_pos
    exact Nat.le_trans unitsInOne_le (Nat.le_mul_of_pos_left _ hu)
  have hlength : 0 < (Nat.toDigits 10 (u * 10 ^ 324 / unitsInOne)).length :=
    List.length_pos_of_ne_nil Nat.toDigits_ne_nil
  obtain ⟨hle, hlt⟩ := length_toDigits_bounds hpos
  rw [order]
  generalize (Nat.toDigits 10 (u * 10 ^ 324 / unitsInOne)).length = n at hle hlt hlength
  rw [Nat.le_div_iff_mul_le unitsInOne_pos] at hle
  rw [Nat.div_lt_iff_lt_mul unitsInOne_pos] at hlt
  -- both bounds are powers of ten in multiples of `10 ^ -324`
  have hlow : (n : Int) - 324 - 1 = (n - 1 : Nat) + -(324 : Nat) := by omega
  have hhigh : (n : Int) - 324 = n + -(324 : Nat) := by omega
  constructor
  · rw [hlow, ← cast_pow_mul, mul_pow_le_iff, scaled_neg]
    exact hle
  · rw [hhigh, ← cast_pow_mul, ← not_le, mul_pow_le_iff, scaled_neg, not_le]
    exact hlt

theorem order_mono (hu : 0 < u) (h : u ≤ u') : order u ≤ order u' := by
  have hlt : (10 : ℚ) ^ (order u - 1) < 10 ^ order u' :=
    calc (10 : ℚ) ^ (order u - 1) ≤ ofUnits u := (order_bounds hu).1
      _ ≤ ofUnits u' := ofUnits_mono h
      _ < 10 ^ order u' := (order_bounds (Nat.lt_of_lt_of_le hu h)).2
  have hexponents := (zpow_lt_zpow_iff_right₀ (by norm_num)).1 hlt
  omega

/-! ## 4. Rounding at the place of a digit -/

/-- `u` units rounded at the place of their `n`-th digit. -/
def significant (n u : Nat) : Decimal :=
  rounded (order u - n) u

variable {n : Nat}

/-- Rounding may carry into one digit more, but then to a power of ten. -/
theorem coefficient_significant_le (hu : 0 < u) : (significant n u).coefficient ≤ 10 ^ n := by
  refine coefficient_rounded_le ?_
  rw [cast_pow_mul, add_sub_cancel]
  exact (order_bounds hu).2.le

theorem le_coefficient_significant (hn : 0 < n) (hu : 0 < u) :
    10 ^ (n - 1) ≤ (significant n u).coefficient := by
  refine le_coefficient_rounded ?_
  have hexponent : ((n - 1 : Nat) : Int) + (order u - n) = order u - 1 := by omega
  rw [cast_pow_mul, hexponent]
  exact (order_bounds hu).1

theorem significant_le_pow (hu : 0 < u) : (significant n u).toRat ≤ 10 ^ order u := by
  have hle : ((significant n u).coefficient : ℚ) ≤ (10 ^ n : Nat) :=
    Nat.cast_le.2 (coefficient_significant_le hu)
  calc (significant n u).toRat ≤ (10 ^ n : Nat) * 10 ^ (order u - n) :=
        mul_le_mul_of_nonneg_right hle (by positivity)
    _ = 10 ^ order u := by rw [cast_pow_mul, add_sub_cancel]

theorem pow_le_significant (hn : 0 < n) (hu : 0 < u) :
    (10 : ℚ) ^ (order u - 1) ≤ (significant n u).toRat := by
  have hle : ((10 ^ (n - 1) : Nat) : ℚ) ≤ (significant n u).coefficient :=
    Nat.cast_le.2 (le_coefficient_significant hn hu)
  have hexponent : order u - 1 = (n - 1 : Nat) + (order u - n) := by omega
  calc (10 : ℚ) ^ (order u - 1) = (10 ^ (n - 1) : Nat) * 10 ^ (order u - n) := by
        rw [cast_pow_mul, hexponent]
    _ ≤ (significant n u).toRat := mul_le_mul_of_nonneg_right hle (by positivity)

/-- A larger magnitude is not rounded to less, although its digits may be at other places. -/
theorem significant_mono (hn : 0 < n) (h : u ≤ u') :
    (significant n u).toRat ≤ (significant n u').toRat := by
  rcases Nat.eq_zero_or_pos u with rfl | hu
  · rw [significant, toRat_rounded_zero]
    exact Decimal.toRat_nonneg _
  · rcases (order_mono hu h).eq_or_lt with heq | hlt
    · rw [significant, significant, heq]
      exact rounded_mono h
    · -- a power of ten lies between the two
      calc (significant n u).toRat ≤ 10 ^ order u := significant_le_pow hu
        _ ≤ 10 ^ (order u' - 1) := zpow_le_zpow_right₀ (by norm_num) (by omega)
        _ ≤ (significant n u').toRat := pow_le_significant hn (Nat.lt_of_lt_of_le hu h)

end Formulary.Number

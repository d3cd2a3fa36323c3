import Formulary.Number.Binary64

/-!
# Decimals

A decimal is a whole coefficient times a power of ten. It has no sign.

* `d.index`: the index of the magnitude nearest to `d`.
* `d.toFloat negative`: the double nearest to `d`, with a sign; infinity when `d` is too large.
* `d.finite? negative`: the same double, unless it is infinite.
* `d.positional`: `d` in digits with a point and no exponent.

Result.
* The two short cuts of `index`, for very small and very large decimals, do not change it
  (`index_eq_nearestIndex`).
-/

namespace Formulary.Number

/-- The decimal `coefficient * 10 ^ exponent`. -/
structure Decimal where
  coefficient : Nat
  exponent : Int
deriving DecidableEq, Repr

namespace Decimal

/-! ## 1. The nearest double -/

/-- `d` is `d.numerator / d.denominator` units of `2 ^ -1074`. -/
def numerator (d : Decimal) : Nat :=
  d.coefficient * 10 ^ d.exponent.toNat * unitsInOne

/-- The denominator that goes with `numerator`. -/
def denominator (d : Decimal) : Nat :=
  10 ^ (-d.exponent).toNat

/-- `d` is so small that the nearest magnitude is zero, seen without a large power of ten. -/
def isTiny (d : Decimal) : Bool :=
  d.coefficient = 0 || d.coefficient.log2 + 3 * d.exponent < -1100

/-- `d` is so large that the nearest magnitude is infinity, seen without a large power of ten. -/
def isHuge (d : Decimal) : Bool :=
  d.coefficient ≠ 0 && 400 < d.exponent

/-- The index of the magnitude nearest to `d`. -/
def index (d : Decimal) : Nat :=
  if d.isTiny then 0
  else if d.isHuge then infiniteIndex
  else nearestIndex d.numerator d.denominator

/-- The double nearest to `d`, with a sign. -/
def toFloat (negative : Bool) (d : Decimal) : Float :=
  ofIndex negative d.index

/-- The double nearest to `d`, with a sign, unless it is infinite. -/
def finite? (negative : Bool) (d : Decimal) : Option Float :=
  if d.index < infiniteIndex then some (d.toFloat negative) else none

theorem denominator_pos (d : Decimal) : 0 < d.denominator :=
  Nat.pow_pos (by decide)

theorem nearestIndex_eq_zero {a b : Nat} (h : 2 * a < b) : nearestIndex a b = 0 := by
  have h0 : a / b = 0 := Nat.div_eq_of_lt (by omega)
  simp [nearestIndex, h0, roundDiv, Nat.mod_eq_of_lt (show a < b by omega), h]

theorem nearestIndex_eq_infinite {a b k : Nat} (hk : 2098 ≤ k) (h : 2 ^ k ≤ a / b) :
    nearestIndex a b = infiniteIndex := by
  have hne : a / b ≠ 0 := Nat.ne_of_gt (Nat.lt_of_lt_of_le (Nat.two_pow_pos k) h)
  have hlog : k ≤ (a / b).log2 := (Nat.le_log2 hne).2 h
  refine Nat.min_eq_right ?_
  have hshift : 2046 * 2 ^ 52 ≤ ((a / b).log2 - 52) * 2 ^ 52 :=
    Nat.mul_le_mul_right _ (by omega)
  have hround : 2 ^ 52 ≤ roundDiv .even a (b * 2 ^ ((a / b).log2 - 52)) := by
    have hge : 2 ^ 52 ≤ a / (b * 2 ^ ((a / b).log2 - 52)) := by
      rw [← Nat.div_div_eq_div_mul, Nat.le_div_iff_mul_le (Nat.two_pow_pos _), ← Nat.pow_add]
      have : 52 + ((a / b).log2 - 52) = (a / b).log2 := by omega
      rw [this]
      exact Nat.log2_self_le hne
    rcases roundDiv_eq_or .even a (b * 2 ^ ((a / b).log2 - 52)) with h | h <;> omega
  unfold infiniteIndex
  omega

/-- The short cuts do not change the result. -/
theorem index_eq_nearestIndex (d : Decimal) :
    d.index = nearestIndex d.numerator d.denominator := by
  unfold index
  split
  · rename_i h
    refine (nearestIndex_eq_zero ?_).symm
    simp only [isTiny, Bool.or_eq_true, decide_eq_true_eq] at h
    rcases h with h | h
    · rw [numerator, h, Nat.zero_mul, Nat.zero_mul, Nat.mul_zero]
      exact denominator_pos d
    · have he : d.exponent = -((-d.exponent).toNat : Int) := by omega
      have h0 : d.exponent.toNat = 0 := by omega
      rw [numerator, denominator, h0, Nat.pow_zero, Nat.mul_one, unitsInOne]
      have hu : unitPlaces = 1074 := by rw [unitPlaces]
      have hc : d.coefficient < 2 ^ (d.coefficient.log2 + 1) := Nat.lt_log2_self
      have h8 : 2 ^ (3 * (-d.exponent).toNat) ≤ 10 ^ (-d.exponent).toNat := by
        rw [Nat.pow_mul]
        exact Nat.pow_le_pow_left (by decide) _
      calc 2 * (d.coefficient * 2 ^ unitPlaces)
          < 2 * (2 ^ (d.coefficient.log2 + 1) * 2 ^ unitPlaces) :=
            Nat.mul_lt_mul_of_pos_left
              (Nat.mul_lt_mul_of_pos_right hc (Nat.two_pow_pos unitPlaces)) (by decide)
        _ = 2 ^ (d.coefficient.log2 + 1 + unitPlaces + 1) := by
            rw [← Nat.pow_add, Nat.mul_comm, ← Nat.pow_succ]
        _ ≤ 2 ^ (3 * (-d.exponent).toNat) := Nat.pow_le_pow_right (by decide) (by omega)
        _ ≤ 10 ^ (-d.exponent).toNat := h8
  · split
    · rename_i h
      simp only [isHuge, Bool.and_eq_true, decide_eq_true_eq] at h
      have h0 : (-d.exponent).toNat = 0 := by omega
      have hu : unitPlaces = 1074 := by rw [unitPlaces]
      refine (nearestIndex_eq_infinite (k := 3 * d.exponent.toNat + unitPlaces) (by omega) ?_).symm
      rw [numerator, denominator, h0, Nat.pow_zero, Nat.div_one, unitsInOne, Nat.pow_add]
      refine Nat.mul_le_mul_right _ ?_
      calc 2 ^ (3 * d.exponent.toNat) ≤ 10 ^ d.exponent.toNat := by
            rw [Nat.pow_mul]
            exact Nat.pow_le_pow_left (by decide) _
        _ ≤ d.coefficient * 10 ^ d.exponent.toNat :=
            Nat.le_mul_of_pos_left _ (Nat.pos_of_ne_zero h.1)
    · rfl

example : (⟨1, 0⟩ : Decimal).toFloat false = 1.0 ∧ (⟨1, 400⟩ : Decimal).finite? true = none := by
  decide +kernel

/-! ## 2. Positional digits -/

/-- Zeros on the left of `s` that make it `n` characters long, if it is shorter. -/
def padded (n : Nat) (s : List Char) : List Char :=
  List.replicate (n - s.length) '0' ++ s

/-- The whole part in digits and, for a negative exponent `-n`, a point and `n` more digits. -/
def positional (d : Decimal) : List Char :=
  match d.exponent with
  | .ofNat n => Nat.toDigits 10 d.coefficient ++ List.replicate n '0'
  | .negSucc n =>
    Nat.toDigits 10 (d.coefficient / 10 ^ (n + 1)) ++
      '.' :: padded (n + 1) (Nat.toDigits 10 (d.coefficient % 10 ^ (n + 1)))

example : (⟨125, 3⟩ : Decimal).positional = "125000".toList := by decide

example : (⟨1205, -2⟩ : Decimal).positional = "12.05".toList := by decide

example : (⟨7, -3⟩ : Decimal).positional = "0.007".toList := by decide

end Decimal

end Formulary.Number

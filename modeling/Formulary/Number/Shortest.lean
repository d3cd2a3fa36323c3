import Formulary.Number.Decimal

/-!
# The fewest digits that read back

`shortest tie i` is the decimal with the fewest digits to which the magnitude with index `i` is the
nearest magnitude. Of several it is the one nearest to the magnitude, and `tie` chooses between two
at the same distance.

The search goes through the decimal grids, the multiples of a power of ten, from coarse to fine. On
each it looks at the two grid points around the magnitude, because if any point of the grid reads
back, one of these two does.

* `order u`: the magnitude of `u` units lies in `[10 ^ (order u - 1), 10 ^ order u)`.
* `onGrid tie i e`: the better of the two multiples of `10 ^ e` around the magnitude, if one reads
  back.
* `exactly i`: the magnitude itself as a decimal.

Result.
* What `shortest` gives reads back, for every magnitude (`index_shortest`).
-/

namespace Formulary.Number

/-- One more than the exponent of the leading decimal digit of `u > 0` units. -/
def order (u : Nat) : Int :=
  (Nat.toDigits 10 (u * 10 ^ 324 / unitsInOne)).length - 324

/-- The multiple of `10 ^ e` nearest to the magnitude among the one at or below it and the one
above it, as far as they read back. -/
def onGrid (tie : Tie) (i : Nat) (e : Int) : Option Decimal :=
  let a := units i * 10 ^ (-e).toNat
  let b := unitsInOne * 10 ^ e.toNat
  let below : Decimal := ⟨a / b, e⟩
  let above : Decimal := ⟨a / b + 1, e⟩
  if below.index = i then
    if above.index = i then some ⟨roundDiv tie a b, e⟩ else some below
  else if above.index = i then some above
  else none

/-- The magnitude with index `i`, digit for digit: a unit is `5 ^ 1074 * 10 ^ -1074`. -/
def exactly (i : Nat) : Decimal :=
  ⟨units i * 5 ^ unitPlaces, -unitPlaces⟩

/-- The decimal with the fewest digits to which the magnitude with index `i` is nearest. -/
def shortest (tie : Tie) (i : Nat) : Decimal :=
  if i = 0 then ⟨0, 0⟩
  else
    ((List.range 18).findSome? fun k : Nat => onGrid tie i (order (units i) - k)).getD (exactly i)

/-! ## 1. Reading back -/

theorem index_onGrid {tie : Tie} {i : Nat} {e : Int} {d : Decimal} (h : onGrid tie i e = some d) :
    d.index = i := by
  simp only [onGrid] at h
  generalize units i * 10 ^ (-e).toNat = a at h
  generalize unitsInOne * 10 ^ e.toNat = b at h
  split at h
  · rename_i hb
    split at h
    · rename_i ha
      obtain rfl := Option.some.inj h
      rcases roundDiv_eq_or tie a b with hr | hr
      · rw [hr]; exact hb
      · rw [hr]; exact ha
    · exact Option.some.inj h ▸ hb
  · split at h
    · rename_i ha
      exact Option.some.inj h ▸ ha
    · cases h

theorem index_exactly {i : Nat} (hi : i < infiniteIndex) : (exactly i).index = i := by
  have hnum : (exactly i).numerator = units i * 10 ^ unitPlaces := by
    have h0 : (-unitPlaces : Int).toNat = 0 := by omega
    rw [Decimal.numerator, exactly, h0, Nat.pow_zero, Nat.mul_one, unitsInOne, Nat.mul_assoc,
      ← Nat.mul_pow]
  have hden : (exactly i).denominator = 1 * 10 ^ unitPlaces := by
    rw [Decimal.denominator, exactly, Nat.one_mul, Int.neg_neg, Int.toNat_natCast]
  rw [Decimal.index_eq_nearestIndex, hnum, hden, nearestIndex_mul_right (Nat.pow_pos (by decide)),
    nearestIndex_units (Nat.le_of_lt hi)]

/-- What `shortest` gives reads back. -/
theorem index_shortest (tie : Tie) {i : Nat} (hi : i < infiniteIndex) :
    (shortest tie i).index = i := by
  unfold shortest
  split
  · rename_i h; subst h; rfl
  · cases hf : (List.range 18).findSome? fun k : Nat => onGrid tie i (order (units i) - k) with
    | none => exact index_exactly hi
    | some d =>
      obtain ⟨k, _, hk⟩ := List.exists_of_findSome?_eq_some hf
      exact index_onGrid hk

end Formulary.Number

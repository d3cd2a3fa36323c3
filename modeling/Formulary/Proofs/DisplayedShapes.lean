import Formulary.Proofs.DisplayedNumbers
import Mathlib.Tactic.Ring

/-!
# The shape and the error of displayed results

A result is shown in one of two shapes, and the number that it shows is close to the result: off by
at most half of the last place that is written.

* `exactValue x`: the number that a finite double is.
* `IsWhole s`: digits without superfluous zeros in front.
* `IsFixed s`, `IsScientific c s`: the two shapes, without the sign. `c` is the digit before the
  point of the second.
* `ShownAs v text x`: what the shape, the sign and the error are for the double `v`.

Results.
* A finite double is as many units as the magnitude of its index, with its sign
  (`exactValue_of_parts`).
* Numbers have one of the two shapes (`isFixed_positional`, `exists_isScientific`).
* Zero is shown as zero, and nothing else is (`toRat_shown_eq_zero_iff`).
* Every finite double is shown with its shape, its sign and its error (`exists_shownAs`).
-/

namespace Formulary

open Number (Decimal Signed AllDigits IsNumber parts place? minus units order rounded significant
  ofUnits infiniteIndex)

/-! ## 1. The number that a double is -/

namespace Number

open Float.Model (UnpackedFloat)
open Float.Model.UnpackedFloat (Sign)
open OrderingLemmas (Placed)

/-- The number that an unpacked double is, if it is finite. -/
def unpackedToRat : UnpackedFloat → ℚ
  | .finite s m e _ => s.apply m * 2 ^ e
  | _ => 0

/-- The number that a finite double is: its mantissa times its power of two, with its sign. -/
def exactValue (x : Float) : ℚ :=
  unpackedToRat x.toModel.unpack

namespace ExactLemmas

variable {u i : Nat} {x : Float} {negative : Bool}

theorem units_of_mantissa {m k : Nat} (hm : m < 2 ^ 53) (h : k = 0 ∨ 2 ^ 52 ≤ m) :
    units (k * 2 ^ 52 + m) = m * 2 ^ k := by
  by_cases htop : 2 ^ 52 ≤ m
  · obtain ⟨f, rfl⟩ := Nat.exists_eq_add_of_le htop
    have hindex : k * 2 ^ 52 + (2 ^ 52 + f) = (k + 1) * 2 ^ 52 + f := by omega
    rw [hindex]
    exact units_of_block k f (by omega)
  · obtain rfl := h.resolve_right htop
    rw [Nat.zero_mul, Nat.zero_add, Nat.pow_zero, Nat.mul_one]
    exact if_pos (Nat.not_le.1 htop)

theorem ofUnits_mul_pow (m k : Nat) : ofUnits (m * 2 ^ k) = m * 2 ^ ((k : Int) - unitPlaces) := by
  rw [ofUnits, unitsInOne, zpow_sub₀ (by norm_num), zpow_natCast, zpow_natCast]
  push_cast
  rw [mul_div_assoc]

/-- An unpacked double is as many units as the magnitude at its place. -/
theorem unpackedToRat_of_placed {a : UnpackedFloat} {p : Int} (h : Placed a (some p))
    (hp : p.natAbs < infiniteIndex) : unpackedToRat a = p.sign * ofUnits (units p.natAbs) := by
  generalize hplace : some p = place at h
  cases h with
  | notANumber => cases hplace
  | infinity s =>
    cases hplace
    cases s <;> exact absurd hp (Nat.lt_irrefl _)
  | zero s =>
    cases hplace
    rw [Int.sign_zero, Int.cast_zero, zero_mul]
    rfl
  | @finite s m k e hm hk hlt htop _ =>
    cases hplace
    have hplaces : unitPlaces = 1074 := by rw [unitPlaces]
    have habs : (s.apply (k * 2 ^ 52 + m : Nat)).natAbs = k * 2 ^ 52 + m := by
      cases s
      · exact Int.natAbs_neg _
      · rfl
    have hsign : (s.apply (k * 2 ^ 52 + m : Nat)).sign = s.apply 1 := by
      have hone : ((k * 2 ^ 52 + m : Nat) : Int).sign = 1 := Int.sign_eq_one_of_pos (by omega)
      cases s
      · exact (Int.sign_neg _).trans (congrArg Neg.neg hone)
      · exact hone
    have happly : s.apply m = s.apply 1 * m := by
      cases s
      · exact (neg_one_mul _).symm
      · exact (one_mul _).symm
    show ((s.apply m : Int) : ℚ) * 2 ^ e = _
    rw [habs, hsign, units_of_mantissa hlt htop, ofUnits_mul_pow, hplaces, happly, hk]
    push_cast
    exact mul_assoc _ _ _

theorem ofUnits_units_zero : ofUnits (units 0) = 0 := by
  rw [show units 0 = 0 from rfl, ofUnits, Nat.cast_zero, zero_div]

end ExactLemmas

open ExactLemmas

variable {u i : Nat} {x : Float} {negative : Bool}

/-- A finite double is as many units as the magnitude of its index, with its sign. -/
theorem exactValue_of_parts (h : parts x = .finite negative i) :
    exactValue x = if negative then -ofUnits (units i) else ofUnits (units i) := by
  obtain ⟨hfinite, -, hindex⟩ := parts_eq_finite_iff.1 h
  have hi : i < infiniteIndex := hindex ▸ (isFinite_iff x).1 hfinite
  have hplaced := OrderingLemmas.placed_unpack x
  rw [place?, h] at hplaced
  have hvalue := unpackedToRat_of_placed hplaced (by cases negative <;> simpa using hi)
  refine hvalue.trans ?_
  rcases Nat.eq_zero_or_pos i with rfl | hpos
  · cases negative <;> simp [ofUnits_units_zero]
  · have hone : (i : Int).sign = 1 := Int.sign_eq_one_of_pos (by omega)
    cases negative <;> simp [hone, Int.sign_neg]

/-- The zeros are the doubles with index 0. -/
theorem beq_zero_iff (h : parts x = .finite negative i) : (x == 0) = true ↔ i = 0 := by
  have hzero : place? 0 = some 0 := by decide +kernel
  rw [beq_iff, hzero, place?, h]
  cases negative <;> simp [Parts.place?, eq_comm]

end Number

/-! ## 2. The two shapes -/

/-- Digits without superfluous zeros in front. -/
structure IsWhole (s : List Char) : Prop where
  digits : AllDigits s
  ne_nil : s ≠ []
  front : s.head? = some '0' → s = ['0']

/-- One to six digits, a point and six digits. -/
inductive IsFixed : List Char → Prop
  | mk {w f : List Char} : IsWhole w → w.length ≤ 6 → AllDigits f → f.length = 6 →
      IsFixed (w ++ '.' :: f)

/-- The digit `c`, a point, six digits, and a power of ten whose sign is always there. -/
inductive IsScientific (c : Char) : List Char → Prop
  | mk {sg : Char} {f p : List Char} : c.isDigit = true → AllDigits f → f.length = 6 →
      sg = '+' ∨ sg = '-' → IsWhole p → IsScientific c (c :: '.' :: (f ++ 'e' :: sg :: p))

namespace ShapeLemmas

open DisplayLemmas
open Number.NumeralLemmas (allDigits_toDigits allDigits_padded length_padded)

theorem head?_toDigits_ne {n : Nat} (hn : 0 < n) : (Nat.toDigits 10 n).head? ≠ some '0' := by
  induction n using Nat.strongRecOn with
  | ind n ih =>
    rw [Nat.toDigits_eq_if (by decide)]
    split
    · rw [List.head?_cons, ne_eq, Option.some.injEq, Nat.digitChar_eq_zero]
      exact Nat.ne_of_gt hn
    · rw [List.head?_append_of_ne_nil _ Nat.toDigits_ne_nil]
      exact ih (n / 10) (by omega) (by omega)

/-- A number in digits has no superfluous zeros in front. -/
theorem isWhole_toDigits (n : Nat) : IsWhole (Nat.toDigits 10 n) where
  digits := allDigits_toDigits n
  ne_nil := Nat.toDigits_ne_nil
  front := by
    intro hzero
    rcases Nat.eq_zero_or_pos n with rfl | hn
    · rfl
    · exact absurd hzero (head?_toDigits_ne hn)

theorem length_places (m : Nat) :
    (Decimal.padded 6 (Nat.toDigits 10 (m % 10 ^ 6))).length = 6 :=
  length_padded (n := 5) (Nat.mod_lt _ (by decide))

theorem isFixed_positional {m : Nat} (hm : m < 10 ^ 12) :
    IsFixed (⟨m, -displayPlaces⟩ : Decimal).positional := by
  have hlength : (Nat.toDigits 10 (m / 10 ^ 6)).length ≤ 6 :=
    (Nat.length_toDigits_le_iff (by decide) (by decide)).2 (by omega)
  exact .mk (isWhole_toDigits _) hlength (allDigits_padded 6 _) (length_places m)

/-- Seven digits have one of them before the point. -/
theorem isScientific_positional {m : Nat} (hm : m < 10 ^ 7) (e : Int) :
    IsScientific (m / 10 ^ 6).digitChar ((⟨m, -displayPlaces⟩ : Decimal).positional ++
      'e' :: (if e < 0 then '-' else '+') :: Nat.toDigits 10 e.natAbs) := by
  have hlt : m / 10 ^ 6 < 10 := by omega
  have hfirst : Nat.toDigits 10 (m / 10 ^ 6) = [(m / 10 ^ 6).digitChar] :=
    Nat.toDigits_of_lt_base hlt
  have hdigit : (m / 10 ^ 6).digitChar.isDigit = true := by
    rw [Nat.isDigit_digitChar, decide_eq_true hlt]
  have hsign : (if e < 0 then '-' else '+') = '+' ∨ (if e < 0 then '-' else '+') = '-' := by
    split
    · exact .inr rfl
    · exact .inl rfl
  have htext := IsScientific.mk hdigit (allDigits_padded 6 (m % 10 ^ 6)) (length_places m) hsign
    (isWhole_toDigits e.natAbs)
  show IsScientific _ ((Nat.toDigits 10 (m / 10 ^ 6) ++ '.' :: _) ++ _)
  rw [hfirst]
  exact htext

variable {u : Nat}

theorem leadingDigits_bounds (hu : 0 < u) :
    10 ^ 6 ≤ (leadingDigits u).1 ∧ (leadingDigits u).1 < 10 ^ 7 := by
  have hle : 10 ^ 6 ≤ (significant 7 u).coefficient :=
    Number.le_coefficient_significant (n := 7) (by decide) hu
  rw [leadingDigits_eq]
  split
  · next hlt => exact ⟨hle, hlt⟩
  · exact ⟨Nat.le_refl (10 ^ 6), (by decide : 10 ^ 6 < 10 ^ 7)⟩

/-- Only zero has a zero before the point. -/
theorem exists_isScientific (u : Nat) :
    ∃ c, IsScientific c (scientific u) ∧ (c = '0' ↔ u = 0) := by
  rcases Nat.eq_zero_or_pos u with rfl | hu
  · have hzero : 0 < 10 ^ 7 := by decide
    exact ⟨'0', isScientific_positional hzero 0, iff_of_true rfl rfl⟩
  · obtain ⟨hle, hlt⟩ := leadingDigits_bounds hu
    rcases hdigits : leadingDigits u with ⟨m, e⟩
    rw [hdigits] at hle hlt
    refine ⟨(m / 10 ^ 6).digitChar, ?_, ?_⟩
    · rw [scientific, if_neg (Nat.ne_of_gt hu), hdigits]
      exact isScientific_positional hlt e
    · rw [Nat.digitChar_eq_zero]
      dsimp only at hle
      omega

theorem writtenOut_iff {i : Nat} {v : Float} {negative : Bool}
    (h : parts v = .finite negative i) :
    writtenOut i = true ↔ 0.000001 ≤ v.abs ∧ v.abs ≤ 999999 := by
  simp [writtenOut, Number.le_iff, Number.place?_abs h, place?_leastWrittenOut,
    place?_largestWrittenOut]

theorem coefficient_fixedDecimal_mono {u u' : Nat} (h : u ≤ u') :
    (fixedDecimal u).coefficient ≤ (fixedDecimal u').coefficient :=
  Number.roundDiv_mono .even Number.unitsInOne_pos (Nat.mul_le_mul_right _ h)

/-- What is written out has at most six digits before the point, also where rounding carries. -/
theorem isFixed_fixedDecimal {i : Nat} (h : writtenOut i = true) :
    IsFixed (fixedDecimal (units i)).positional := by
  have hlargest : (fixedDecimal (units largestWrittenOut)).coefficient < 10 ^ 12 := by
    decide +kernel
  have hle : i ≤ largestWrittenOut := of_decide_eq_true (Bool.and_eq_true_iff.1 h).2
  exact isFixed_positional
    (Nat.lt_of_le_of_lt (coefficient_fixedDecimal_mono (units_mono hle)) hlargest)

end ShapeLemmas

/-! ## 3. The error -/

namespace ShapeLemmas

open DisplayLemmas

variable {i : Nat} {v : Float} {negative : Bool}

theorem abs_fixedDecimal_sub_le (u : Nat) :
    |(fixedDecimal u).toRat - ofUnits u| ≤ 5 * 10 ^ (-7 : Int) := by
  have herror := Number.abs_rounded_sub_le (-(6 : Nat)) u
  rw [← fixedDecimal_eq] at herror
  refine herror.trans_eq ?_
  norm_num

/-- Seven digits are off by at most half of the last, seen from the first. -/
theorem abs_significant_sub_le (u : Nat) :
    |(significant 7 u).toRat - ofUnits u| ≤ 5 * 10 ^ (-7 : Int) * 10 ^ (order u - 1) := by
  refine (Number.abs_rounded_sub_le _ u).trans_eq ?_
  have hexponent : order u - (7 : Nat) = -7 + (order u - 1) + 1 := by omega
  rw [hexponent, zpow_add₀ (by norm_num), zpow_add₀ (by norm_num), zpow_one]
  ring

/-- Only zero is shown as zero. -/
theorem toRat_shown_eq_zero_iff : (shown i).toRat = 0 ↔ i = 0 := by
  constructor
  · intro hzero
    by_contra hne
    -- the least magnitude above zero has digits, and nothing above it is shown as less
    have hone : 0 < (shown 1).toRat := by
      rw [toRat_shown_of_outside (.inl (by decide))]
      exact (by positivity : (0 : ℚ) < 10 ^ (order (units 1) - 1)).trans_le
        (Number.pow_le_significant (by decide) (by decide))
    have hle : (shown 1).toRat ≤ (shown i).toRat := shown_mono (Nat.pos_of_ne_zero hne)
    exact absurd hzero (hone.trans_le hle).ne'
  · rintro rfl
    exact shown_zero

theorem signed_toRat_eq_zero_iff {d : Decimal} :
    (⟨negative, d⟩ : Signed).toRat = 0 ↔ d.toRat = 0 := by
  rw [Signed.toRat]
  cases negative with
  | false => exact Iff.rfl
  | true => exact neg_eq_zero

/-- The sign of a displayed double does not change its error. -/
theorem abs_toRat_sub_exactValue (h : parts v = .finite negative i) (d : Decimal) :
    |(⟨negative, d⟩ : Signed).toRat - Number.exactValue v| = |d.toRat - ofUnits (units i)| := by
  rw [Number.exactValue_of_parts h, Signed.toRat]
  cases negative with
  | false => rfl
  | true =>
    show |-d.toRat - -ofUnits (units i)| = _
    rw [neg_sub_neg, abs_sub_comm]

theorem abs_exactValue (h : parts v = .finite negative i) :
    |Number.exactValue v| = ofUnits (units i) := by
  have hnonneg : 0 ≤ ofUnits (units i) := by
    unfold Number.ofUnits
    positivity
  rw [Number.exactValue_of_parts h]
  cases negative with
  | false => exact abs_of_nonneg hnonneg
  | true => exact (abs_neg _).trans (abs_of_nonneg hnonneg)

theorem units_eq_zero_iff : units i = 0 ↔ i = 0 := by
  constructor
  · intro hzero
    by_contra hne
    exact absurd hzero (Nat.ne_of_gt (Number.units_lt_units (Nat.pos_of_ne_zero hne)))
  · rintro rfl
    rfl

end ShapeLemmas

/-! ## 4. Displayed doubles -/

/-- The double `v` is shown with or without a minus sign before `text`, which is the number `x` with
its sign. -/
structure ShownAs (v : Float) (text : List Char) (x : Signed) : Prop where
  /-- A minus sign stands for a sign bit that is set. -/
  sign : (display v).toList = minus (decide (2 ^ 63 ≤ v.toBits.toNat)) ++ text
  number : IsNumber (display v).toList x
  zero : x.toRat = 0 ↔ (v == 0) = true
  fixed : 0.000001 ≤ v.abs ∧ v.abs ≤ 999999 →
    IsFixed text ∧ |x.toRat - Number.exactValue v| ≤ 5 * 10 ^ (-7 : Int)
  /-- Outside, zero has only zeros, and other doubles have an exponent `k`. -/
  scientific : ¬ (0.000001 ≤ v.abs ∧ v.abs ≤ 999999) →
    ∃ c, IsScientific c text ∧ (c = '0' ↔ (v == 0) = true) ∧
      ((v == 0) = false → ∃ k : Int,
        10 ^ k ≤ |Number.exactValue v| ∧ |Number.exactValue v| < 10 ^ (k + 1) ∧
        |x.toRat - Number.exactValue v| ≤ 5 * 10 ^ (-7 : Int) * 10 ^ k)

open ShapeLemmas DisplayLemmas

/-- Every finite double is written out from `0.000001` to `999999` in magnitude, and with a power of
ten otherwise, and shows a number that is off by at most half of the last place written. -/
theorem exists_shownAs {v : Float} (hv : v.isFinite = true) : ∃ text x, ShownAs v text x := by
  have hparts := Number.parts_eq_finite_iff.2 ⟨hv, rfl, rfl⟩
  obtain ⟨d, hd, hvalue⟩ := exists_isNumber_display hparts
  have hzero := Number.beq_zero_iff hparts
  have hwritten := writtenOut_iff hparts
  have herror := abs_toRat_sub_exactValue hparts d
  generalize v.toBits.toNat % 2 ^ 63 = i at hparts hvalue hzero hwritten herror
  refine ⟨_, _, toList_display hparts, hd, ?_, fun hbetween => ?_, fun houtside => ?_⟩
  · rw [signed_toRat_eq_zero_iff, hvalue, toRat_shown_eq_zero_iff, hzero]
  · have hfixed := hwritten.2 hbetween
    rw [herror, hvalue, shown, if_pos hfixed, if_pos hfixed]
    exact ⟨isFixed_fixedDecimal hfixed, abs_fixedDecimal_sub_le _⟩
  · have hscientific := mt hwritten.1 houtside
    rw [herror, hvalue, shown, if_neg hscientific, if_neg hscientific, abs_exactValue hparts, hzero,
      ← units_eq_zero_iff]
    obtain ⟨c, htext, hfirst⟩ := exists_isScientific (units i)
    refine ⟨c, htext, hfirst, fun hne => ⟨order (units i) - 1, ?_⟩⟩
    have hpos : 0 < units i := by
      refine Nat.pos_of_ne_zero fun h0 => ?_
      rw [hzero.2 (units_eq_zero_iff.1 h0)] at hne
      cases hne
    obtain ⟨hle, hlt⟩ := Number.order_bounds hpos
    rw [Int.sub_add_cancel]
    exact ⟨hle, hlt, abs_significant_sub_le _⟩

/-- Rounding carries, so that seven nines and more are shown as `1.000000e-6`. -/
theorem exists_shownAs_carry :
    (-9.9999999e-7 : Float).isFinite = true ∧ display (-9.9999999e-7) = "-1.000000e-6" ∧
      ∃ text x, ShownAs (-9.9999999e-7) text x := by
  have hv : (-9.9999999e-7 : Float).isFinite = true := by decide +kernel
  have hdisplay : display (-9.9999999e-7) = "-1.000000e-6" := by decide +kernel
  exact ⟨hv, hdisplay, exists_shownAs hv⟩

end Formulary

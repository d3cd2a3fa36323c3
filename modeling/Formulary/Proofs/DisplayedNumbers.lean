import Formulary.Display
import Formulary.Proofs.LeadingNumbers
import Formulary.Proofs.Ordering
import Formulary.Proofs.RoundedDecimals
import Mathlib.Order.Monotone.Union

/-!
# The numbers that results show

A displayed double is a number again, but not always the double: it is rounded, at the sixth place
after the point or at the seventh digit. The two ways meet at `0.000001` and at `999999`, which
both show as the same number.

* `writtenOut i`: the magnitude is shown without a power of ten.
* `shown i`: the number shown for the magnitude, rounded in one way or the other.

Results.
* The text that shows a finite double is a number, that of its magnitude with its sign
  (`exists_isNumber_display`).
* Of two magnitudes the larger is not shown as less, across both ways of rounding (`shown_mono`).
* Of two finite doubles the larger is not shown as less (`display_mono`).
-/

namespace Formulary

open Number (Decimal Signed IsSign IsPower IsNumber parts place? minus units unitsInOne order
  rounded significant)

/-! ## 1. What is shown -/

/-- The index of `0.000001`, the least magnitude that is written out. -/
def leastWrittenOut : Nat := 0x3EB0C6F7A0B5ED8D

/-- The index of `999999`, the largest magnitude that is written out. -/
def largestWrittenOut : Nat := 0x412E847E00000000

/-- The magnitude is shown without a power of ten. -/
def writtenOut (i : Nat) : Bool :=
  leastWrittenOut ≤ i && i ≤ largestWrittenOut

/-- The number shown for the magnitude. -/
def shown (i : Nat) : Decimal :=
  if writtenOut i then fixedDecimal (units i) else significant 7 (units i)

namespace DisplayLemmas

variable {u i j : Nat} {x : Float} {negative : Bool}

theorem fixedDecimal_eq (u : Nat) : fixedDecimal u = rounded (-(6 : Nat)) u := by
  rw [rounded, Number.scaled_neg]
  rfl

/-- The digits are those of `significant`, one less where rounding has carried. -/
theorem leadingDigits_eq (u : Nat) :
    leadingDigits u =
      if (significant 7 u).coefficient < 10 ^ 7 then ((significant 7 u).coefficient, order u - 1)
      else (10 ^ 6, order u) := by
  have hlast : order u - 1 - (displayPlaces : Int) = order u - (7 : Nat) := by
    simp only [displayPlaces]
    omega
  unfold leadingDigits
  simp only [hlast, Int.sub_add_cancel]
  rfl

theorem toRat_leadingDigits (hu : 0 < u) :
    (⟨(leadingDigits u).1, -6 + (leadingDigits u).2⟩ : Decimal).toRat =
      (significant 7 u).toRat := by
  rw [leadingDigits_eq]
  split
  · have hexponent : -6 + (order u - 1) = order u - (7 : Nat) := by omega
    unfold Decimal.toRat
    dsimp only
    rw [hexponent]
    rfl
  · next hcarry =>
    have hcoefficient : (significant 7 u).coefficient = 10 ^ 7 :=
      Nat.le_antisymm (Number.coefficient_significant_le hu) (Nat.not_lt.1 hcarry)
    have hexponent : (6 : Nat) + (-6 + order u) = (7 : Nat) + (order u - (7 : Nat)) := by omega
    show ((10 ^ 6 : Nat) : ℚ) * 10 ^ (-6 + order u) =
      ((significant 7 u).coefficient : ℚ) * 10 ^ (order u - (7 : Nat))
    rw [hcoefficient, Number.cast_pow_mul, Number.cast_pow_mul, hexponent]

/-! ## 2. The text is a number -/

theorem isSign_minus (negative : Bool) : IsSign (minus negative) negative := by
  cases negative
  · exact .none
  · exact .minus

theorem isPower_exponent (e : Int) :
    IsPower ('e' :: (if e < 0 then '-' else '+') :: Nat.toDigits 10 e.natAbs) e := by
  have hdigits := Number.NumeralLemmas.allDigits_toDigits e.natAbs
  have hvalue := Number.NumeralLemmas.digitsValue_toDigits e.natAbs
  split
  · next hneg =>
    have hpower := IsPower.ten (.inl rfl) .minus Nat.toDigits_ne_nil hdigits
    rwa [hvalue, if_pos rfl, Int.ofNat_natAbs_of_nonpos hneg.le, neg_neg] at hpower
  · next hneg =>
    have hpower := IsPower.ten (.inl rfl) .plus Nat.toDigits_ne_nil hdigits
    rwa [hvalue, if_neg Bool.false_ne_true, Int.natAbs_of_nonneg (not_lt.1 hneg)] at hpower

theorem isNumber_fixed (negative : Bool) (u : Nat) :
    IsNumber (minus negative ++ (fixedDecimal u).positional) ⟨negative, fixedDecimal u⟩ := by
  have hnumber := IsNumber.mk (isSign_minus negative)
    (Number.NumeralLemmas.isNumeral_positional (fixedDecimal u).coefficient 5) .none
  rwa [List.append_nil] at hnumber

theorem exists_isNumber_scientific (negative : Bool) (u : Nat) :
    ∃ d : Decimal, IsNumber (minus negative ++ scientific u) ⟨negative, d⟩ ∧
      d.toRat = (significant 7 u).toRat := by
  have hnumber (m : Nat) (e : Int) := IsNumber.mk (isSign_minus negative)
    (Number.NumeralLemmas.isNumeral_positional m 5) (isPower_exponent e)
  rcases Nat.eq_zero_or_pos u with rfl | hu
  · refine ⟨⟨0, -6 + 0⟩, ?_, ?_⟩
    · rw [scientific, if_pos rfl]
      exact hnumber 0 0
    · rw [significant, Number.toRat_rounded_zero]
      exact zero_mul _
  · have hvalue := toRat_leadingDigits hu
    rcases hdigits : leadingDigits u with ⟨m, e⟩
    rw [hdigits] at hvalue
    refine ⟨⟨m, -6 + e⟩, ?_, hvalue⟩
    rw [scientific, if_neg (Nat.ne_of_gt hu), hdigits]
    exact hnumber m e

theorem place?_leastWrittenOut : place? 0.000001 = some (leastWrittenOut : Int) := by
  decide +kernel

theorem place?_largestWrittenOut : place? 999999 = some (largestWrittenOut : Int) := by
  decide +kernel

/-- The comparisons of the magnitude are comparisons of its index. -/
theorem toList_display (h : parts x = .finite negative i) :
    (display x).toList = minus negative ++
      if writtenOut i then (fixedDecimal (units i)).positional else scientific (units i) := by
  have hlow : x.abs < 0.000001 ↔ i < leastWrittenOut := by
    simp [Number.lt_iff, Number.place?_abs h, place?_leastWrittenOut]
  have hhigh : x.abs > 999999 ↔ largestWrittenOut < i := by
    simp [Number.lt_iff, Number.place?_abs h, place?_largestWrittenOut]
  have houtside : (decide (x.abs < 0.000001) || decide (x.abs > 999999)) = !writtenOut i := by
    simp only [writtenOut, hlow, hhigh, Bool.not_and, ← decide_not, not_le]
  rw [display, h, String.toList_ofList]
  dsimp only
  rw [houtside]
  cases writtenOut i with
  | false => rw [Bool.not_false, if_pos rfl, if_neg Bool.false_ne_true]
  | true => rw [Bool.not_true, if_neg Bool.false_ne_true, if_pos rfl]

end DisplayLemmas

open DisplayLemmas

variable {i j : Nat} {v w : Float} {negative : Bool}

/-- The text that shows a double is a number, that of its magnitude with its sign. -/
theorem exists_isNumber_display (h : parts v = .finite negative i) :
    ∃ d : Decimal, IsNumber (display v).toList ⟨negative, d⟩ ∧ d.toRat = (shown i).toRat := by
  rw [toList_display h, shown]
  split
  · exact ⟨_, isNumber_fixed negative (units i), rfl⟩
  · exact exists_isNumber_scientific negative (units i)

/-! ## 3. The order -/

namespace DisplayLemmas

/-- The least magnitude that is written out shows as the same number in both ways, and so does the
largest. The digits of the least carry: it lies just below `0.000001`. -/
theorem toRat_significant_of_switch (h : i = leastWrittenOut ∨ i = largestWrittenOut) :
    (significant 7 (units i)).toRat = (fixedDecimal (units i)).toRat := by
  rcases h with rfl | rfl
  · have hfixed : fixedDecimal (units leastWrittenOut) = ⟨1, -6⟩ := by decide +kernel
    have hdigits : significant 7 (units leastWrittenOut) = ⟨10 ^ 7, -13⟩ := by decide +kernel
    rw [hfixed, hdigits]
    norm_num [Decimal.toRat]
  · have hfixed : fixedDecimal (units largestWrittenOut) = ⟨999999000000, -6⟩ := by decide +kernel
    have hdigits : significant 7 (units largestWrittenOut) = ⟨9999990, -1⟩ := by decide +kernel
    rw [hfixed, hdigits]
    norm_num [Decimal.toRat]

theorem toRat_shown_of_between (hleast : leastWrittenOut ≤ i) (hlargest : i ≤ largestWrittenOut) :
    (shown i).toRat = (fixedDecimal (units i)).toRat := by
  rw [shown, writtenOut, decide_eq_true hleast, decide_eq_true hlargest]
  rfl

/-- At the ends of what is written out the digits show the same number. -/
theorem toRat_shown_of_outside (h : i ≤ leastWrittenOut ∨ largestWrittenOut ≤ i) :
    (shown i).toRat = (significant 7 (units i)).toRat := by
  rw [shown]
  split
  · next hwritten =>
    obtain ⟨hleast, hlargest⟩ := Bool.and_eq_true_iff.1 hwritten
    refine (toRat_significant_of_switch ?_).symm
    exact h.imp (le_antisymm · (of_decide_eq_true hleast))
      (le_antisymm (of_decide_eq_true hlargest))
  · rfl

theorem units_mono : Monotone units :=
  StrictMono.monotone fun _ _ => Number.units_lt_units

theorem significant_units_mono : Monotone fun i => (significant 7 (units i)).toRat :=
  fun _ _ h => Number.significant_mono (by decide) (units_mono h)

theorem fixedDecimal_units_mono : Monotone fun i => (fixedDecimal (units i)).toRat := by
  intro i j h
  simp only [fixedDecimal_eq]
  exact Number.rounded_mono (units_mono h)

theorem shown_zero : (shown 0).toRat = 0 := by
  rw [toRat_shown_of_outside (.inl (Nat.zero_le _)), significant]
  exact Number.toRat_rounded_zero _

end DisplayLemmas

/-- Of two magnitudes the larger is not shown as less: each way of rounding keeps the order, and
they meet where they take turns. -/
theorem shown_mono : Monotone fun i => (shown i).toRat := by
  have hswitches : leastWrittenOut ≤ largestWrittenOut := by decide
  have hbelow : MonotoneOn (fun i => (shown i).toRat) (Set.Iic leastWrittenOut) :=
    (significant_units_mono.monotoneOn _).congr fun i hi =>
      (toRat_shown_of_outside (.inl hi)).symm
  have hbetween : MonotoneOn (fun i => (shown i).toRat)
      (Set.Icc leastWrittenOut largestWrittenOut) :=
    (fixedDecimal_units_mono.monotoneOn _).congr fun i hi =>
      (toRat_shown_of_between hi.1 hi.2).symm
  have habove : MonotoneOn (fun i => (shown i).toRat) (Set.Ici largestWrittenOut) :=
    (significant_units_mono.monotoneOn _).congr fun i hi =>
      (toRat_shown_of_outside (.inr hi)).symm
  have hfrom := hbetween.union_right habove (isGreatest_Icc hswitches) isLeast_Ici
  rw [Set.Icc_union_Ici_eq_Ici hswitches] at hfrom
  exact hbelow.Iic_union_Ici hfrom

/-- With signs, the larger place is not shown as less. -/
theorem signed_shown_mono {m n : Bool}
    (h : (if m then -(i : Int) else i) ≤ if n then -(j : Int) else j) :
    (⟨m, shown i⟩ : Signed).toRat ≤ (⟨n, shown j⟩ : Signed).toRat := by
  have hi : 0 ≤ (shown i).toRat := (shown i).toRat_nonneg
  have hj : 0 ≤ (shown j).toRat := (shown j).toRat_nonneg
  cases m with
  | false =>
    cases n with
    | false => exact shown_mono (Int.ofNat_le.1 h)
    | true =>
      -- only the two zeros are left
      have hplaces : (i : Int) ≤ -(j : Int) := h
      obtain ⟨rfl, rfl⟩ : i = 0 ∧ j = 0 := by omega
      simp [Signed.toRat, shown_zero]
  | true =>
    cases n with
    | false => exact (neg_nonpos.2 hi).trans hj
    | true => exact neg_le_neg (shown_mono (Int.ofNat_le.1 (neg_le_neg_iff.1 h)))

/-- Of two finite doubles the larger is not shown as less: what is shown are two numbers in this
order, in whichever way each is written. -/
theorem display_mono (hv : v.isFinite = true) (hw : w.isFinite = true) (h : v ≤ w) :
    ∃ x y, IsNumber (display v).toList x ∧ IsNumber (display w).toList y ∧ x.toRat ≤ y.toRat := by
  have hpartsv := Number.parts_eq_finite_iff.2 ⟨hv, rfl, rfl⟩
  have hpartsw := Number.parts_eq_finite_iff.2 ⟨hw, rfl, rfl⟩
  obtain ⟨d, hd, hvalue⟩ := exists_isNumber_display hpartsv
  obtain ⟨d', hd', hvalue'⟩ := exists_isNumber_display hpartsw
  refine ⟨_, _, hd, hd', ?_⟩
  have hplaces := Number.le_iff.1 h
  rw [place?, place?, hpartsv, hpartsw] at hplaces
  obtain ⟨_, _, ⟨⟩, ⟨⟩, hle⟩ := hplaces
  have hshown := signed_shown_mono hle
  rw [Signed.toRat, Signed.toRat] at hshown ⊢
  rwa [hvalue, hvalue']

/-- The lower shows as `1.000000e-6`, rounded up to where numbers are written out, the other as
`0.000001`. -/
theorem display_mono_carry :
    (9.9999999e-7 : Float).isFinite = true ∧ (1.0000001e-6 : Float).isFinite = true ∧
      (9.9999999e-7 : Float) ≤ 1.0000001e-6 ∧
      ∃ x y, IsNumber (display 9.9999999e-7).toList x ∧ IsNumber (display 1.0000001e-6).toList y ∧
        x.toRat ≤ y.toRat := by
  have hv : (9.9999999e-7 : Float).isFinite = true := by decide +kernel
  have hw : (1.0000001e-6 : Float).isFinite = true := by decide +kernel
  have h : (9.9999999e-7 : Float) ≤ 1.0000001e-6 := by decide +kernel
  exact ⟨hv, hw, h, display_mono hv hw h⟩

end Formulary

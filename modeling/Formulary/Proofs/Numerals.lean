import Formulary.Number.Numeral
import Formulary.Proofs.Doubles
import Mathlib.Data.List.TakeWhile

/-!
# Numerals

A numeral is digits with an optional point, and at least one digit. `IsNumeral s d` says so of the
text `s` and gives its value `d`; it does not say how a numeral is read.

Results.
* `numeral?` reads exactly the numerals (`numeral?_eq_some_iff`).
* The plain digits of a finite double without a minus sign are a numeral, and the double nearest to
  its value is that double (`exists_isNumeral_plain`).
-/

namespace Formulary.Number

/-! ## 1. The form of a numeral -/

/-- The characters are digits. -/
def AllDigits (s : List Char) : Prop :=
  ∀ c ∈ s, c.isDigit = true

/-- `s` is a numeral of value `d`: digits, or a point with digits before it, after it, or both. -/
inductive IsNumeral : List Char → Decimal → Prop
  | whole {w : List Char} : w ≠ [] → AllDigits w → IsNumeral w ⟨digitsValue w, 0⟩
  | point {w f : List Char} : AllDigits w → AllDigits f → w ++ f ≠ [] →
      IsNumeral (w ++ '.' :: f) ⟨digitsValue (w ++ f), -f.length⟩

namespace NumeralLemmas

theorem allDigits_takeWhile (s : List Char) : AllDigits (s.takeWhile Char.isDigit) :=
  List.all_eq_true.1 List.all_takeWhile

theorem allDigits_append {s t : List Char} (hs : AllDigits s) (ht : AllDigits t) :
    AllDigits (s ++ t) :=
  List.forall_mem_append.2 ⟨hs, ht⟩

theorem takeWhile_point {w : List Char} (h : AllDigits w) (f : List Char) :
    (w ++ '.' :: f).takeWhile Char.isDigit = w ∧
      (w ++ '.' :: f).dropWhile Char.isDigit = '.' :: f := by
  rw [List.takeWhile_append_of_pos h, List.dropWhile_append_of_pos h]
  exact ⟨List.append_nil w, rfl⟩

/-- What `unsigned?` takes off a text is a numeral. -/
theorem exists_isNumeral_of_unsigned? {s rest : List Char} {d : Decimal}
    (h : unsigned? s = some (d, rest)) : ∃ t, IsNumeral t d ∧ s = t ++ rest := by
  have hs := List.takeWhile_append_dropWhile (p := Char.isDigit) (l := s)
  have hw := allDigits_takeWhile s
  rw [unsigned?] at h
  split at h
  · next tail hdrop =>
    have htail := List.takeWhile_append_dropWhile (p := Char.isDigit) (l := tail)
    have hf := allDigits_takeWhile tail
    dsimp only at h
    split at h
    · cases h
    · next hne =>
      cases h
      refine ⟨_, .point hw hf fun he => hne ?_, ?_⟩
      · obtain ⟨h1, h2⟩ := List.append_eq_nil_iff.1 he
        rw [h1, h2]
        rfl
      · rw [List.append_assoc, List.cons_append, htail, ← hdrop, hs]
  · split at h
    · cases h
    · next hne =>
      cases h
      exact ⟨_, .whole (fun he => hne (by rw [he]; rfl)) hw, hs.symm⟩

end NumeralLemmas

open NumeralLemmas

/-- `numeral?` reads exactly the numerals. -/
theorem numeral?_eq_some_iff {s : List Char} {d : Decimal} :
    numeral? s = some d ↔ IsNumeral s d := by
  constructor
  · intro h
    rw [numeral?] at h
    split at h
    · next hun =>
      cases h
      obtain ⟨t, ht, rfl⟩ := exists_isNumeral_of_unsigned? hun
      rwa [List.append_nil]
    · cases h
  · intro h
    cases h with
    | whole hne hw =>
      have htake := List.takeWhile_eq_self_iff.2 hw
      have hdrop := List.dropWhile_eq_nil_iff.2 hw
      simp [numeral?, unsigned?, htake, hdrop, hne]
    | @point w f hw hf hne =>
      obtain ⟨htake, hdrop⟩ := takeWhile_point hw f
      have htake' := List.takeWhile_eq_self_iff.2 hf
      have hdrop' := List.dropWhile_eq_nil_iff.2 hf
      have hempty : (w.isEmpty && f.isEmpty) = false := by
        cases w
        · cases f
          · exact absurd rfl hne
          · rfl
        · rfl
      simp [numeral?, unsigned?, htake, hdrop, htake', hdrop', hempty]

/-- The value of a numeral is unique. -/
theorem IsNumeral.unique {s : List Char} {d d' : Decimal} (h : IsNumeral s d)
    (h' : IsNumeral s d') : d = d' :=
  Option.some.inj ((numeral?_eq_some_iff.2 h).symm.trans (numeral?_eq_some_iff.2 h'))

/-! ## 2. The plain digits of a double -/

namespace NumeralLemmas

theorem digitsValue_append (s t : List Char) :
    digitsValue (s ++ t) = digitsValue s * 10 ^ t.length + digitsValue t := by
  rw [digitsValue, Nat.ofDigitChars_append, Nat.ofDigitChars_eq_ofDigitChars_zero, Nat.mul_comm]
  rfl

theorem digitsValue_toDigits (n : Nat) : digitsValue (Nat.toDigits 10 n) = n :=
  Nat.ofDigitChars_ten_toDigits

theorem digitsValue_zeros (n : Nat) : digitsValue (List.replicate n '0') = 0 := by
  rw [digitsValue, Nat.ofDigitChars_replicate_zero, Nat.mul_zero]

theorem allDigits_toDigits (n : Nat) : AllDigits (Nat.toDigits 10 n) :=
  fun _ h => Nat.isDigit_of_mem_toDigits (by decide) (by decide) h

theorem allDigits_zeros (n : Nat) : AllDigits (List.replicate n '0') := by
  intro c hc
  rw [List.eq_of_mem_replicate hc]
  rfl

theorem allDigits_padded (n m : Nat) : AllDigits (Decimal.padded n (Nat.toDigits 10 m)) :=
  allDigits_append (allDigits_zeros _) (allDigits_toDigits m)

theorem length_padded {n m : Nat} (h : m < 10 ^ (n + 1)) :
    (Decimal.padded (n + 1) (Nat.toDigits 10 m)).length = n + 1 := by
  have := (Nat.length_toDigits_le_iff (by decide) (Nat.succ_pos n)).2 h
  rw [Decimal.padded, List.length_append, List.length_replicate]
  omega

theorem digitsValue_padded (n m : Nat) :
    digitsValue (Decimal.padded n (Nat.toDigits 10 m)) = m := by
  rw [Decimal.padded, digitsValue_append, digitsValue_zeros, digitsValue_toDigits, Nat.zero_mul,
    Nat.zero_add]

/-- Zeros moved from the exponent into the coefficient keep the nearest magnitude. -/
theorem index_shift (c n : Nat) : (⟨c * 10 ^ n, 0⟩ : Decimal).index = (⟨c, n⟩ : Decimal).index := by
  rw [Decimal.index_eq_nearestIndex, Decimal.index_eq_nearestIndex]
  simp [Decimal.numerator, Decimal.denominator]

/-- With digits after the point, a decimal in positional digits is a numeral of its value. -/
theorem isNumeral_positional (c n : Nat) :
    IsNumeral (⟨c, .negSucc n⟩ : Decimal).positional ⟨c, .negSucc n⟩ := by
  -- the point stands between quotient and remainder, padded to its place
  have hmod : c % 10 ^ (n + 1) < 10 ^ (n + 1) := Nat.mod_lt _ (Nat.pow_pos (by decide))
  have hcoefficient : digitsValue (Nat.toDigits 10 (c / 10 ^ (n + 1)) ++
      Decimal.padded (n + 1) (Nat.toDigits 10 (c % 10 ^ (n + 1)))) = c := by
    rw [digitsValue_append, digitsValue_toDigits, digitsValue_padded, length_padded hmod,
      Nat.div_add_mod']
  have hexponent : -((Decimal.padded (n + 1) (Nat.toDigits 10 (c % 10 ^ (n + 1)))).length : Int) =
      .negSucc n := by
    rw [length_padded hmod]
    rfl
  have hnumeral := IsNumeral.point (allDigits_toDigits (c / 10 ^ (n + 1)))
    (allDigits_padded (n + 1) (c % 10 ^ (n + 1)))
    (List.append_ne_nil_of_left_ne_nil Nat.toDigits_ne_nil _)
  rwa [hcoefficient, hexponent] at hnumeral

/-- A decimal in positional digits is a numeral of the same nearest magnitude. -/
theorem exists_isNumeral_positional (d : Decimal) :
    ∃ d' : Decimal, IsNumeral d.positional d' ∧ d'.index = d.index := by
  obtain ⟨c, e⟩ := d
  have hne : Nat.toDigits 10 c ≠ [] := Nat.toDigits_ne_nil
  cases e with
  | ofNat n =>
    -- zeros stand for the exponent
    refine ⟨_, .whole ?_ (allDigits_append (allDigits_toDigits c) (allDigits_zeros n)), ?_⟩
    · exact List.append_ne_nil_of_left_ne_nil hne _
    · show Decimal.index ⟨digitsValue (_ ++ List.replicate n '0'), 0⟩ = _
      rw [digitsValue_append, digitsValue_toDigits, digitsValue_zeros, List.length_replicate]
      exact index_shift c n
  | negSucc n => exact ⟨_, isNumeral_positional c n, rfl⟩

end NumeralLemmas

/-- A finite double without a minus sign. -/
def IsUnsigned (x : Float) : Prop :=
  x.isFinite = true ∧ x.toBits.toNat < 2 ^ 63

theorem isUnsigned_iff {x : Float} :
    IsUnsigned x ↔ ∃ i < infiniteIndex, ofIndex false i = x := by
  constructor
  · rintro ⟨hfin, hsign⟩
    refine ⟨_, (isFinite_iff x).1 hfin, ofIndex_of_parts (parts_eq_finite_iff.2 ⟨hfin, ?_, rfl⟩)⟩
    exact (decide_eq_false (Nat.not_le.2 hsign)).symm
  · rintro ⟨i, hi, rfl⟩
    have hbits := toNat_toBits_ofIndex false (Nat.le_of_lt hi)
    rw [if_neg Bool.false_ne_true, Nat.zero_add] at hbits
    have hlt : i < 2 ^ 63 := Nat.lt_trans hi (by decide)
    exact ⟨(isFinite_iff _).2 (by rwa [hbits, Nat.mod_eq_of_lt hlt]), by rwa [hbits]⟩

/-- The plain digits of a double without a minus sign read back. -/
theorem exists_isNumeral_plain {x : Float} (h : IsUnsigned x) :
    ∃ d : Decimal, IsNumeral (plain x) d ∧ d.toFloat false = x := by
  obtain ⟨i, hi, rfl⟩ := isUnsigned_iff.1 h
  obtain ⟨d, hd, hindex⟩ := exists_isNumeral_positional (shortest .up i)
  refine ⟨d, ?_, ?_⟩
  · rwa [plain, parts_ofIndex false hi]
  · rw [Decimal.toFloat, hindex, index_shortest .up hi]

end Formulary.Number

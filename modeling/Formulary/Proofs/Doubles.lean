import Formulary.Number.Decimal
import Mathlib

/-!
# Doubles and their indices

A finite double is its sign and the index of its magnitude, and nothing else. The bits are read here
once; what is proved about finite doubles elsewhere speaks of signs and indices only.

Results.
* A double is finite exactly when its index is below that of infinity (`isFinite_iff`).
* `ofIndex` and `parts` are inverse to each other on finite doubles (`parts_ofIndex`,
  `ofIndex_of_parts`).
* The double nearest to a decimal is finite exactly when there is a finite one to give
  (`finite?_eq_some_iff`).
-/

namespace Formulary.Number

open Float.Model (Format UnpackedFloat)
open Float.Model.UnpackedFloat (unpackSign unpackExponent unpackMantissa)

/-! ## 1. The fields of the bits -/

namespace BitsLemmas

variable (b : BitVec Format.binary64.numBits)

theorem toNat_lt : b.toNat < 2 ^ 64 :=
  b.isLt

theorem toNat_sign : (unpackSign b).toNat = b.toNat / 2 ^ 63 := by
  have h := toNat_lt b
  unfold unpackSign
  rw [BitVec.toNat_cast, BitVec.extractLsb_toNat, Nat.shiftRight_eq_div_pow]
  show b.toNat / 2 ^ 63 % 2 = _
  omega

theorem toNat_exponent : (unpackExponent b).toNat = b.toNat % 2 ^ 63 / 2 ^ 52 := by
  unfold unpackExponent
  rw [BitVec.toNat_cast, BitVec.extractLsb_toNat, Nat.shiftRight_eq_div_pow]
  show b.toNat / 2 ^ 52 % 2 ^ 11 = _
  omega

theorem toNat_mantissa : (unpackMantissa b).toNat = b.toNat % 2 ^ 63 % 2 ^ 52 := by
  unfold unpackMantissa
  rw [BitVec.toNat_cast, BitVec.extractLsb_toNat, Nat.shiftRight_zero]
  show b.toNat % 2 ^ 52 = _
  omega

/-- The exponent of infinities and of what is no number. -/
theorem exponent_eq_top_iff :
    unpackExponent b = -1#_ ↔ infiniteIndex ≤ b.toNat % 2 ^ 63 := by
  have htop : (-1#(Format.binary64.exponentBits)).toNat = 2047 := by decide
  rw [← BitVec.toNat_inj, toNat_exponent, htop, infiniteIndex]
  omega

theorem toNat_one_append (m : BitVec 52) : (1#1 ++ m).toNat = 2 ^ 52 + m.toNat := by
  rw [BitVec.toNat_append, ← Nat.shiftLeft_add_eq_or_of_lt m.isLt]
  rfl

/-- Bits that are no `nan` are kept by packing what is unpacked. -/
theorem pack_unpack (h : b.toNat % 2 ^ 63 ≤ infiniteIndex) :
    UnpackedFloat.pack .binary64 (UnpackedFloat.unpack .binary64 b) = b := by
  rw [UnpackedFloat.pack_unpack b, if_neg]
  -- an exponent of all ones comes with a mantissa of zeros only
  intro hnan
  obtain ⟨htop, hmantissa⟩ := of_decide_eq_true hnan
  have hle := (exponent_eq_top_iff b).1 htop
  refine hmantissa (BitVec.toNat_inj.1 ?_)
  rw [toNat_mantissa, Nat.le_antisymm h hle]
  rfl

theorem isFinite_unpack_iff :
    (UnpackedFloat.unpack .binary64 b).isFinite = true ↔ unpackExponent b ≠ -1#_ := by
  unfold UnpackedFloat.unpack
  by_cases htop : unpackExponent b = -1#_
  · rw [if_pos htop]
    refine iff_of_false ?_ (not_not_intro htop)
    split <;> exact Bool.false_ne_true
  rw [if_neg htop]
  refine iff_of_true ?_ htop
  by_cases hlow : unpackExponent b = 0#_
  · rw [if_pos hlow]
    by_cases hzero : unpackMantissa b = 0#_
    · rw [dif_pos hzero]
      rfl
    · rw [dif_neg hzero]
      rfl
  · rw [if_neg hlow]
    rfl

end BitsLemmas

open BitsLemmas

/-! ## 2. Bits, signs and indices -/

/-- Bits that are no `nan` are those of their double. -/
theorem toBits_ofBits (w : UInt64) (h : w.toNat % 2 ^ 63 ≤ infiniteIndex) :
    (Float.ofBits w).toBits = w :=
  UInt64.toBitVec_inj.1 (pack_unpack w.toBitVec h)

/-- A double is finite exactly when its index is below that of infinity. -/
theorem isFinite_iff (x : Float) :
    x.isFinite = true ↔ x.toBits.toNat % 2 ^ 63 < infiniteIndex := by
  have htop := exponent_eq_top_iff x.toBits.toBitVec
  rw [UInt64.toNat_toBitVec] at htop
  rw [← Nat.not_le, ← htop]
  exact isFinite_unpack_iff x.toBits.toBitVec

/-- The bits of `ofIndex`. -/
theorem toNat_toBits_ofIndex (negative : Bool) {i : Nat} (hi : i ≤ infiniteIndex) :
    (ofIndex negative i).toBits.toNat = (if negative then 2 ^ 63 else 0) + i := by
  have hlt : (if negative then 2 ^ 63 else 0) + i < 2 ^ 64 := by
    unfold infiniteIndex at hi
    split <;> omega
  have hw : (UInt64.ofNat ((if negative then 2 ^ 63 else 0) + i)).toNat =
      (if negative then 2 ^ 63 else 0) + i := UInt64.toNat_ofNat_of_lt' hlt
  rw [ofIndex, toBits_ofBits, hw]
  rw [hw]
  unfold infiniteIndex at hi ⊢
  split <;> omega

theorem parts_ofIndex (negative : Bool) {i : Nat} (hi : i < infiniteIndex) :
    parts (ofIndex negative i) = .finite negative i := by
  have hlt : i < 2 ^ 63 := Nat.lt_trans hi (by decide)
  have hneg : decide (2 ^ 63 ≤ (if negative then 2 ^ 63 else 0) + i) = negative := by
    cases negative <;> simp
    omega
  have hmod : ((if negative then 2 ^ 63 else 0) + i) % 2 ^ 63 = i := by
    split <;> omega
  rw [parts, toNat_toBits_ofIndex negative (Nat.le_of_lt hi), hneg, hmod, if_pos hi]

/-- What the parts of a finite double are. -/
theorem parts_eq_finite_iff {x : Float} {negative : Bool} {i : Nat} :
    parts x = .finite negative i ↔ x.isFinite = true ∧
      negative = decide (2 ^ 63 ≤ x.toBits.toNat) ∧ i = x.toBits.toNat % 2 ^ 63 := by
  rw [isFinite_iff, parts]
  split
  · next h =>
    constructor
    · intro heq
      cases heq
      exact ⟨h, rfl, rfl⟩
    · rintro ⟨-, rfl, rfl⟩
      rfl
  · next h =>
    refine ⟨fun heq => ?_, fun hfin => absurd hfin.1 h⟩
    split at heq <;> cases heq

theorem ofIndex_of_parts {x : Float} {negative : Bool} {i : Nat}
    (h : parts x = .finite negative i) : ofIndex negative i = x := by
  obtain ⟨hfin, rfl, rfl⟩ := parts_eq_finite_iff.1 h
  have hi := (isFinite_iff x).1 hfin
  apply Float.toBits_inj.1
  rw [← UInt64.toNat_inj, toNat_toBits_ofIndex _ (Nat.le_of_lt hi)]
  have hlt := x.toBits.toNat_lt
  by_cases hneg : 2 ^ 63 ≤ x.toBits.toNat
  · simp only [hneg, decide_true, if_true]
    omega
  · simp only [hneg, decide_false, Bool.false_eq_true, if_false]
    omega

/-! ## 3. The double nearest to a decimal -/

theorem index_le_infinite (d : Decimal) : d.index ≤ infiniteIndex := by
  rw [Decimal.index_eq_nearestIndex]
  exact Nat.min_le_right _ _

theorem isFinite_toFloat_iff (d : Decimal) (negative : Bool) :
    (d.toFloat negative).isFinite = true ↔ d.index < infiniteIndex := by
  have hle := index_le_infinite d
  rw [isFinite_iff, Decimal.toFloat, toNat_toBits_ofIndex negative hle]
  have hmod : ((if negative then 2 ^ 63 else 0) + d.index) % 2 ^ 63 = d.index := by
    unfold infiniteIndex at hle
    split <;> omega
  rw [hmod]

/-- The finite double nearest to `d` is the nearest double, if that is finite. -/
theorem finite?_eq_some_iff {d : Decimal} {negative : Bool} {x : Float} :
    d.finite? negative = some x ↔
      (d.toFloat negative).isFinite = true ∧ d.toFloat negative = x := by
  rw [isFinite_toFloat_iff, Decimal.finite?]
  split
  · next h => simp [h]
  · next h => simp [h]

end Formulary.Number

import Formulary.Proofs.Doubles

/-!
# The order of doubles

Doubles are compared by their places on one line: the index of the magnitude, with the sign of the
double. Both zeros have place 0, and what is no number has no place.

* `place? x`: the place of `x`.

Results.
* A double is below another, or not above it, exactly when its place is (`lt_iff`, `le_iff`), so
  that the order of doubles is transitive (`lt_of_le_of_lt`). Doubles with the same place are equal
  as numbers (`beq_iff`).
* The magnitude of a finite double has its index and no minus sign (`abs_of_parts`).
-/

namespace Formulary.Number

open Float.Model (Format UnpackedFloat)
open Float.Model.UnpackedFloat (unpackSign unpackExponent unpackMantissa Sign)

/-! ## 1. Places -/

/-- The index with the sign of the double. -/
def Parts.place? : Parts → Option Int
  | .nan => none
  | .infinite negative => some (if negative then -infiniteIndex else infiniteIndex)
  | .finite negative index => some (if negative then -index else index)

/-- The place of the double among all that are numbers. -/
def place? (x : Float) : Option Int :=
  (parts x).place?

example :
    place? 1 = some (0x3FF0000000000000 : Nat) ∧ place? (-0.0) = some 0 ∧ place? nan = none := by
  decide +kernel

/-! ## 2. Unpacked doubles -/

namespace OrderingLemmas

/-- The place of an unpacked double. Above the lowest exponent, mantissas have their top bit. -/
inductive Placed : UnpackedFloat → Option Int → Prop
  | notANumber : Placed .notANumber none
  | infinity (s : Sign) : Placed (.infinity s) (some (s.apply infiniteIndex))
  | zero (s : Sign) : Placed (.zero s) (some 0)
  | finite (s : Sign) {m k : Nat} {e : Int} (hm : 0 < m) (hk : e = k - 1074) (hlt : m < 2 ^ 53)
      (htop : k = 0 ∨ 2 ^ 52 ≤ m) (hfinite : k * 2 ^ 52 + m < infiniteIndex) :
      Placed (.finite s m e hm) (some (s.apply (k * 2 ^ 52 + m : Nat)))

/-- The sign in the bits of the double. -/
def signField (x : Float) : Sign :=
  .ofBitVec (@unpackSign .binary64 x.toBits.toBitVec)

/-- The exponent in the bits of the double. -/
def exponentField (x : Float) : BitVec 11 :=
  @unpackExponent .binary64 x.toBits.toBitVec

/-- The mantissa in the bits of the double. -/
def mantissaField (x : Float) : BitVec 52 :=
  @unpackMantissa .binary64 x.toBits.toBitVec

variable {x : Float}

theorem signField_eq (x : Float) :
    signField x = if decide (2 ^ 63 ≤ x.toBits.toNat) then .negative else .positive := by
  have hbit := BitsLemmas.toNat_sign x.toBits.toBitVec
  have hlt := x.toBits.toNat_lt
  rw [UInt64.toNat_toBitVec] at hbit
  by_cases h : 2 ^ 63 ≤ x.toBits.toNat
  · rw [if_pos (decide_eq_true h)]
    refine if_neg fun hzero => ?_
    rw [hzero] at hbit
    have hquotient : x.toBits.toNat / 2 ^ 63 = 0 := hbit.symm
    omega
  · rw [if_neg (by simpa using h)]
    refine if_pos (BitVec.eq_of_toNat_eq ?_)
    rw [hbit]
    show x.toBits.toNat / 2 ^ 63 = 0
    omega

/-- The index in the bits is the exponent followed by the mantissa. -/
theorem index_eq (x : Float) :
    x.toBits.toNat % 2 ^ 63 = (exponentField x).toNat * 2 ^ 52 + (mantissaField x).toNat := by
  have hexponent := BitsLemmas.toNat_exponent x.toBits.toBitVec
  have hmantissa := BitsLemmas.toNat_mantissa x.toBits.toBitVec
  rw [UInt64.toNat_toBitVec] at hexponent hmantissa
  rw [exponentField, hexponent, mantissaField, hmantissa]
  omega

theorem place?_of_le (h : x.toBits.toNat % 2 ^ 63 ≤ infiniteIndex) :
    place? x = some ((signField x).apply (x.toBits.toNat % 2 ^ 63 : Nat)) := by
  rw [signField_eq, place?, parts]
  generalize decide (2 ^ 63 ≤ x.toBits.toNat) = negative
  rcases Nat.lt_or_eq_of_le h with h | h
  · rw [if_pos h]
    cases negative <;> rfl
  · rw [if_neg (by omega), if_pos h, h]
    cases negative <;> rfl

theorem place?_of_lt (h : infiniteIndex < x.toBits.toNat % 2 ^ 63) : place? x = none := by
  rw [place?, parts, if_neg (by omega), if_neg (by omega)]
  rfl

theorem unpack_eq (x : Float) :
    UnpackedFloat.unpack .binary64 x.toBits.toBitVec =
      if exponentField x = -1#_ then
        if mantissaField x = 0#_ then .infinity (signField x) else .notANumber
      else if exponentField x = 0#_ then
        if h : mantissaField x = 0#_ then .zero (signField x)
        else .finite (signField x) (mantissaField x).toNat ((exponentField x).toNat - 1075 + 1)
          (Nat.pos_of_ne_zero fun h0 => h (BitVec.eq_of_toNat_eq h0))
      else .finite (signField x) (1#1 ++ mantissaField x).toNat ((exponentField x).toNat - 1075)
        (by rw [BitsLemmas.toNat_one_append]; omega) :=
  rfl

theorem placed_of_top (h : exponentField x = -1#_) :
    Placed (UnpackedFloat.unpack .binary64 x.toBits.toBitVec) (place? x) := by
  have hindex : x.toBits.toNat % 2 ^ 63 = infiniteIndex + (mantissaField x).toNat := by
    rw [index_eq, h]
    rfl
  rw [unpack_eq, if_pos h]
  by_cases hzero : mantissaField x = 0#_
  · rw [hzero] at hindex
    rw [if_pos hzero, place?_of_le (Nat.le_of_eq hindex), hindex]
    exact .infinity _
  · have hne : (mantissaField x).toNat ≠ 0 := fun h0 => hzero (BitVec.eq_of_toNat_eq h0)
    rw [if_neg hzero, place?_of_lt (by omega)]
    exact .notANumber

theorem placed_of_low (h : exponentField x = 0#_) :
    Placed (UnpackedFloat.unpack .binary64 x.toBits.toBitVec) (place? x) := by
  have hindex : x.toBits.toNat % 2 ^ 63 = 0 * 2 ^ 52 + (mantissaField x).toNat := by
    rw [index_eq, h]
    rfl
  have hlt : (mantissaField x).toNat < 2 ^ 52 := (mantissaField x).isLt
  have htop : infiniteIndex = 0x7FF * 2 ^ 52 := rfl
  rw [unpack_eq, if_neg (by rw [h]; decide), if_pos h, place?_of_le (by omega), hindex]
  by_cases hzero : mantissaField x = 0#_
  · rw [dif_pos hzero, hzero]
    cases signField x <;> exact .zero _
  · rw [dif_neg hzero]
    exact .finite _ _ (by rw [h]; rfl) (by omega) (.inl rfl) (by omega)

theorem placed_of_between (htop : exponentField x ≠ -1#_) (hlow : exponentField x ≠ 0#_) :
    Placed (UnpackedFloat.unpack .binary64 x.toBits.toBitVec) (place? x) := by
  have hlt : (exponentField x).toNat < 2 ^ 11 := (exponentField x).isLt
  have hne_top : (exponentField x).toNat ≠ 0x7FF := fun h => htop (BitVec.eq_of_toNat_eq h)
  have hne_low : (exponentField x).toNat ≠ 0 := fun h => hlow (BitVec.eq_of_toNat_eq h)
  have hmantissa : (mantissaField x).toNat < 2 ^ 52 := (mantissaField x).isLt
  have hone := BitsLemmas.toNat_one_append (mantissaField x)
  have hindex : x.toBits.toNat % 2 ^ 63 =
      ((exponentField x).toNat - 1) * 2 ^ 52 + (1#1 ++ mantissaField x).toNat := by
    rw [index_eq, hone]
    omega
  have hfinite : x.toBits.toNat % 2 ^ 63 < infiniteIndex := by
    rw [index_eq, infiniteIndex]
    omega
  rw [hindex] at hfinite
  rw [unpack_eq, if_neg htop, if_neg hlow, place?_of_le (by omega), hindex]
  exact .finite _ _ (by omega) (by omega) (.inr (by omega)) hfinite

theorem placed_unpack (x : Float) :
    Placed (UnpackedFloat.unpack .binary64 x.toBits.toBitVec) (place? x) := by
  by_cases htop : exponentField x = -1#_
  · exact placed_of_top htop
  by_cases hlow : exponentField x = 0#_
  · exact placed_of_low hlow
  · exact placed_of_between htop hlow

/-- Magnitudes with a higher exponent are above those with a lower one, and the mantissa decides
between magnitudes with the same. -/
theorem compare_exponents {m m' k k' : Nat} (hlt : m < 2 ^ 53) (hlt' : m' < 2 ^ 53)
    (htop : k = 0 ∨ 2 ^ 52 ≤ m) (htop' : k' = 0 ∨ 2 ^ 52 ≤ m') :
    (compare ((k : Int) - 1074) (k' - 1074)).then (compare m m') =
      compare ((k * 2 ^ 52 + m : Nat) : Int) (k' * 2 ^ 52 + m' : Nat) := by
  rcases Nat.lt_trichotomy k k' with h | rfl | h
  · rw [Int.compare_eq_lt.2 (by omega), Int.compare_eq_lt.2 (by omega)]
    rfl
  · rw [Int.compare_eq_eq.2 rfl]
    show compare m m' = _
    rcases Nat.lt_trichotomy m m' with h | rfl | h
    · rw [Nat.compare_eq_lt.2 h, Int.compare_eq_lt.2 (by omega)]
    · rw [Nat.compare_eq_eq.2 rfl, Int.compare_eq_eq.2 rfl]
    · rw [Nat.compare_eq_gt.2 h, Int.compare_eq_gt.2 (by omega)]
  · rw [Int.compare_eq_gt.2 (by omega), Int.compare_eq_gt.2 (by omega)]
    rfl

theorem compare_neg (i j : Int) : compare (-i) (-j) = compare j i := by
  simp only [Int.compare_eq_ite_lt, Int.neg_lt_neg_iff]

theorem compare_of_lt {i j : Int} (h : i < j) : some Ordering.lt = some (compare i j) :=
  congrArg some (Int.compare_eq_lt.2 h).symm

theorem compare_of_gt {i j : Int} (h : j < i) : some Ordering.gt = some (compare i j) :=
  congrArg some (Int.compare_eq_gt.2 h).symm

/-- Unpacked doubles compare as their places do. -/
theorem compare_of_placed {a b : UnpackedFloat} {p q : Option Int} (ha : Placed a p)
    (hb : Placed b q) : a.compare b = p.bind fun i => q.map fun j => compare i j := by
  have hinfinite : 0 < infiniteIndex := by decide
  cases ha with
  | notANumber => rfl
  | infinity s =>
    cases hb with
    | notANumber => cases s <;> rfl
    | infinity t => cases s <;> cases t <;> rfl
    | zero t => cases s <;> rfl
    | finite t hm hk hlt htop hfinite =>
      cases s
      · exact compare_of_lt (by cases t <;> simp only [Sign.apply] <;> omega)
      · exact compare_of_gt (by cases t <;> simp only [Sign.apply] <;> omega)
  | zero s =>
    cases hb with
    | notANumber => rfl
    | infinity t => cases t <;> rfl
    | zero t => rfl
    | finite t hm hk hlt htop hfinite =>
      cases t
      · exact compare_of_gt (by simp only [Sign.apply]; omega)
      · exact compare_of_lt (by simp only [Sign.apply]; omega)
  | @finite s m k e hm hk hlt htop hfinite =>
    cases hb with
    | notANumber => cases s <;> rfl
    | infinity t =>
      cases t
      · cases s <;> exact compare_of_gt (by simp only [Sign.apply]; omega)
      · cases s <;> exact compare_of_lt (by simp only [Sign.apply]; omega)
    | zero t =>
      cases s
      · exact compare_of_lt (by simp only [Sign.apply]; omega)
      · exact compare_of_gt (by simp only [Sign.apply]; omega)
    | @finite t m' k' e' hm' hk' hlt' htop' hfinite' =>
      have hcompare := compare_exponents hlt hlt' htop htop'
      rw [← hk, ← hk'] at hcompare
      cases s <;> cases t
      · show some ((compare e e').then (compare m m')).swap = some (compare (-_) (-_))
        rw [hcompare, Int.compare_swap, compare_neg]
      · exact compare_of_lt (by simp only [Sign.apply]; omega)
      · exact compare_of_gt (by simp only [Sign.apply]; omega)
      · exact congrArg some hcompare

end OrderingLemmas

open OrderingLemmas

/-! ## 3. The order -/

variable {x y z : Float}

/-- A double is below another exactly when its place is. -/
theorem lt_iff : x < y ↔ ∃ i j, place? x = some i ∧ place? y = some j ∧ i < j := by
  have hlt : x < y ↔ (UnpackedFloat.unpack .binary64 x.toBits.toBitVec).compare
      (UnpackedFloat.unpack .binary64 y.toBits.toBitVec) = some .lt := by
    show decide (_ = true) = true ↔ _
    rw [decide_eq_true_iff]
    exact beq_iff_eq
  rw [hlt, compare_of_placed (placed_unpack x) (placed_unpack y)]
  simp [Option.bind_eq_some_iff, Int.compare_eq_lt]

/-- A double is not above another exactly when its place is not. -/
theorem le_iff : x ≤ y ↔ ∃ i j, place? x = some i ∧ place? y = some j ∧ i ≤ j := by
  have hle : x ≤ y ↔ ((UnpackedFloat.unpack .binary64 x.toBits.toBitVec).compare
      (UnpackedFloat.unpack .binary64 y.toBits.toBitVec)).any (·.isLE) = true := by
    show decide (_ = true) = true ↔ _
    rw [decide_eq_true_iff]
    rfl
  rw [hle, compare_of_placed (placed_unpack x) (placed_unpack y)]
  cases place? x <;> cases place? y <;> simp [Int.isLE_compare]

protected theorem lt_of_le_of_lt (h : x ≤ y) (h' : y < z) : x < z := by
  obtain ⟨i, j, hi, hj, hij⟩ := le_iff.1 h
  obtain ⟨j', k, hj', hk, hjk⟩ := lt_iff.1 h'
  obtain rfl : j = j' := Option.some.inj (hj.symm.trans hj')
  exact lt_iff.2 ⟨i, k, hi, hk, Int.lt_of_le_of_lt hij hjk⟩

/-- Of doubles that have places, one is not above the other if the other is not below it. -/
theorem le_of_not_lt {i j : Int} (hx : place? x = some i) (hy : place? y = some j)
    (h : ¬ y < x) : x ≤ y := by
  refine le_iff.2 ⟨i, j, hx, hy, Int.not_lt.1 fun hlt => ?_⟩
  exact h (lt_iff.2 ⟨j, i, hy, hx, hlt⟩)

/-- Doubles are equal as numbers exactly when they have the same place. -/
theorem beq_iff : (x == y) = true ↔ ∃ i, place? x = some i ∧ place? y = some i := by
  have hbeq : (x == y) = true ↔ (UnpackedFloat.unpack .binary64 x.toBits.toBitVec).compare
      (UnpackedFloat.unpack .binary64 y.toBits.toBitVec) = some .eq := by
    show (UnpackedFloat.compare _ _ == some .eq) = true ↔ _
    exact beq_iff_eq
  rw [hbeq, compare_of_placed (placed_unpack x) (placed_unpack y)]
  simp [Option.bind_eq_some_iff]

/-- The doubles at place 0 are the two zeros. -/
theorem exists_eq_zero (h : place? x = some 0) : ∃ negative, x = ofIndex negative 0 := by
  have htop : 0 < infiniteIndex := by decide
  rw [place?] at h
  cases hparts : parts x with
  | nan =>
    rw [hparts] at h
    cases h
  | infinite negative =>
    rw [hparts] at h
    cases negative <;> simp [Parts.place?] at h <;> omega
  | finite negative i =>
    rw [hparts] at h
    obtain rfl : i = 0 := by cases negative <;> simp [Parts.place?] at h <;> omega
    exact ⟨negative, (ofIndex_of_parts hparts).symm⟩

/-! ## 4. Magnitudes -/

namespace OrderingLemmas

theorem finite_congr {s : Sign} {m m' : Nat} {e : Int} {hm : 0 < m} {hm' : 0 < m'} (h : m = m') :
    UnpackedFloat.finite s m e hm = .finite s m' e hm' := by
  subst h
  rfl

/-- Doubles with the same index have the same magnitude. -/
theorem abs_unpack (h : x.toBits.toNat % 2 ^ 63 = y.toBits.toNat % 2 ^ 63)
    (hsign : signField y = .positive) :
    (UnpackedFloat.unpack .binary64 x.toBits.toBitVec).abs =
      UnpackedFloat.unpack .binary64 y.toBits.toBitVec := by
  have hm : (mantissaField x).toNat < 2 ^ 52 := (mantissaField x).isLt
  have hm' : (mantissaField y).toNat < 2 ^ 52 := (mantissaField y).isLt
  rw [index_eq, index_eq] at h
  have hexponent : exponentField x = exponentField y := BitVec.eq_of_toNat_eq (by omega)
  have hmantissa : mantissaField x = mantissaField y := BitVec.eq_of_toNat_eq (by omega)
  rw [unpack_eq x, unpack_eq y, hexponent, hsign]
  by_cases htop : exponentField y = -1#_
  · rw [if_pos htop, if_pos htop, hmantissa]
    by_cases hzero : mantissaField y = 0#_
    · rw [if_pos hzero, if_pos hzero]
      rfl
    · rw [if_neg hzero, if_neg hzero]
      rfl
  · rw [if_neg htop, if_neg htop]
    by_cases hlow : exponentField y = 0#_
    · rw [if_pos hlow, if_pos hlow]
      by_cases hzero : mantissaField y = 0#_
      · rw [dif_pos (hmantissa.trans hzero), dif_pos hzero]
        rfl
      · rw [dif_neg fun h => hzero (hmantissa.symm.trans h), dif_neg hzero]
        exact finite_congr (congrArg BitVec.toNat hmantissa)
    · rw [if_neg hlow, if_neg hlow]
      exact finite_congr (congrArg (fun m => (1#1 ++ m).toNat) hmantissa)

end OrderingLemmas

/-- The magnitude of a finite double has its index and no minus sign. -/
theorem abs_of_parts {negative : Bool} {i : Nat} (h : parts x = .finite negative i) :
    x.abs = ofIndex false i := by
  obtain ⟨hfinite, -, hindex⟩ := parts_eq_finite_iff.1 h
  have hi : i < infiniteIndex := hindex ▸ (isFinite_iff x).1 hfinite
  have hlt : i < 2 ^ 63 := Nat.lt_trans hi (by decide)
  have hbits := toNat_toBits_ofIndex false (Nat.le_of_lt hi)
  rw [if_neg Bool.false_ne_true, Nat.zero_add] at hbits
  have hsign : signField (ofIndex false i) = .positive := by
    rw [signField_eq, hbits, decide_eq_false (Nat.not_le.2 hlt)]
    rfl
  have habs : (UnpackedFloat.unpack .binary64 x.toBits.toBitVec).abs =
      UnpackedFloat.unpack .binary64 (ofIndex false i).toBits.toBitVec :=
    abs_unpack (by rw [hbits, ← hindex, Nat.mod_eq_of_lt hlt]) hsign
  refine Float.toBits_inj.1 (UInt64.toBitVec_inj.1 ?_)
  show UnpackedFloat.pack .binary64 (UnpackedFloat.unpack .binary64 x.toBits.toBitVec).abs = _
  rw [habs, BitsLemmas.pack_unpack]
  rw [UInt64.toNat_toBitVec, hbits, Nat.mod_eq_of_lt hlt]
  exact Nat.le_of_lt hi

/-- The magnitude of a finite double has the place of its index. -/
theorem place?_abs {negative : Bool} {i : Nat} (h : parts x = .finite negative i) :
    place? x.abs = some (i : Int) := by
  obtain ⟨hfinite, -, rfl⟩ := parts_eq_finite_iff.1 h
  rw [abs_of_parts h, place?, parts_ofIndex false ((isFinite_iff x).1 hfinite)]
  rfl

end Formulary.Number

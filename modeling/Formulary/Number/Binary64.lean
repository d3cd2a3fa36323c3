import Formulary.Number.Rounding

/-!
# Doubles as whole numbers

The magnitudes of the finite doubles, in increasing order, are `units 0 < units 1 < ...`, each
counted in units of `2 ^ -1074`. The bits of a double below its sign bit are the place of its
magnitude in this order, so no part of this file computes with doubles.

* `parts x`: what the bits of `x` say. A finite double is a sign and the index of its magnitude.
* `ofIndex negative i`: the double with this sign and magnitude; index `infiniteIndex` is infinity.
* `unitsInOne`: the number one, in units.
* `units i`: the magnitude with index `i`, in units of `2 ^ -1074`.
* `nearestIndex a b`: the index of the magnitude nearest to `a / b` units. A tie goes to the even
  index, and what is half a step or more above the largest magnitude goes to infinity.

Results.
* Magnitudes grow with their index (`units_lt_units`).
* Only the ratio of the two numbers matters for the nearest magnitude (`nearestIndex_mul_right`).
* A magnitude is the nearest to itself (`nearestIndex_units`).
-/

namespace Formulary.Number

/-- Powers of natural numbers, the same whatever else a module imports. -/
@[default_instance 20000]
instance (priority := 20000) natPow : Pow Nat Nat := instPowNat

/-! ## 1. The bits of a double -/

/-- The index of infinity, which is the number of finite magnitudes. -/
def infiniteIndex : Nat := 0x7FF * 2 ^ 52

/-- What the bits of a double say. -/
inductive Parts
  | nan
  | infinite (negative : Bool)
  | finite (negative : Bool) (index : Nat)
deriving DecidableEq, Repr

/-- The sign is the top bit, the index the other 63. -/
def parts (x : Float) : Parts :=
  let negative := decide (2 ^ 63 ≤ x.toBits.toNat)
  let index := x.toBits.toNat % 2 ^ 63
  if index < infiniteIndex then .finite negative index
  else if index = infiniteIndex then .infinite negative
  else .nan

/-- The double with this sign and the magnitude of this index. -/
def ofIndex (negative : Bool) (index : Nat) : Float :=
  Float.ofBits (UInt64.ofNat ((if negative then 2 ^ 63 else 0) + index))

/-- The double that is no number. -/
def nan : Float :=
  ofIndex false (infiniteIndex + 2 ^ 51)

example : parts 1.0 = .finite false (0x3FF * 2 ^ 52) ∧ parts (-0.0) = .finite true 0 := by
  decide +kernel

example : parts (1.0 / 0.0) = .infinite false ∧ parts nan = .nan := by
  decide +kernel

/-! ## 2. Magnitudes -/

/-- The binary places that a unit lies after the point: it is `2 ^ -1074`. -/
@[irreducible] def unitPlaces : Nat := 1074

/-- The number one, in units. -/
def unitsInOne : Nat := 2 ^ unitPlaces

theorem unitsInOne_pos : 0 < unitsInOne :=
  Nat.two_pow_pos unitPlaces

/-- The magnitude with index `i`, in units of `2 ^ -1074`: the lowest `2 ^ 52` magnitudes are one
unit apart, and each further block of `2 ^ 52` has steps twice as long as the block before it,
except that the first two blocks share their step. -/
def units (i : Nat) : Nat :=
  if i < 2 ^ 52 then i else (2 ^ 52 + i % 2 ^ 52) * 2 ^ (i / 2 ^ 52 - 1)

theorem units_of_block (k f : Nat) (hf : f < 2 ^ 52) :
    units ((k + 1) * 2 ^ 52 + f) = (2 ^ 52 + f) * 2 ^ k := by
  have h1 : ¬ (k + 1) * 2 ^ 52 + f < 2 ^ 52 := by omega
  have h2 : ((k + 1) * 2 ^ 52 + f) % 2 ^ 52 = f := by omega
  have h3 : ((k + 1) * 2 ^ 52 + f) / 2 ^ 52 - 1 = k := by omega
  rw [units, if_neg h1, h2, h3]

/-- An index from the second block on is its block and its place in it. -/
theorem exists_block {i : Nat} (h : 2 ^ 52 ≤ i) :
    ∃ k f, f < 2 ^ 52 ∧ i = (k + 1) * 2 ^ 52 + f :=
  ⟨i / 2 ^ 52 - 1, i % 2 ^ 52, by omega, by omega⟩

theorem units_lt_succ (i : Nat) : units i < units (i + 1) := by
  by_cases h : i + 1 < 2 ^ 52
  · rw [units, units, if_pos h, if_pos (by omega)]
    omega
  · by_cases h' : i < 2 ^ 52
    · have : i = 2 ^ 52 - 1 := by omega
      subst this
      decide
    · obtain ⟨k, f, hf, rfl⟩ := exists_block (Nat.le_of_not_lt h')
      have hp : 0 < 2 ^ k := Nat.two_pow_pos k
      rw [units_of_block k f hf]
      by_cases hl : f + 1 < 2 ^ 52
      · rw [Nat.add_assoc, units_of_block k (f + 1) hl]
        exact Nat.mul_lt_mul_of_pos_right (by omega) hp
      · have hsplit : (k + 1) * 2 ^ 52 + f + 1 = (k + 1 + 1) * 2 ^ 52 + 0 := by omega
        rw [hsplit, units_of_block (k + 1) 0 (by decide), Nat.pow_succ]
        have hmul : (2 ^ 52 + f) * 2 ^ k < 2 ^ 52 * 2 * 2 ^ k :=
          Nat.mul_lt_mul_of_pos_right (by omega) hp
        calc (2 ^ 52 + f) * 2 ^ k < 2 ^ 52 * 2 * 2 ^ k := hmul
          _ = (2 ^ 52 + 0) * (2 ^ k * 2) := by
            rw [Nat.add_zero, Nat.mul_assoc, Nat.mul_comm 2 (2 ^ k)]

/-- Magnitudes grow with their index. -/
theorem units_lt_units {i j : Nat} (h : i < j) : units i < units j := by
  induction h with
  | refl => exact units_lt_succ i
  | step _ ih => exact Nat.lt_trans ih (units_lt_succ _)

/-! ## 3. The nearest magnitude -/

/-- The index of the magnitude nearest to `a / b` units. The step between the magnitudes around
`a / b` is `2 ^ shift`, and the index of the magnitude of `m` such steps is
`shift * 2 ^ 52 + m`. -/
def nearestIndex (a b : Nat) : Nat :=
  let shift := (a / b).log2 - 52
  min (shift * 2 ^ 52 + roundDiv .even a (b * 2 ^ shift)) infiniteIndex

theorem nearestIndex_mul_right {c : Nat} (hc : 0 < c) (a b : Nat) :
    nearestIndex (a * c) (b * c) = nearestIndex a b := by
  simp only [nearestIndex, Nat.mul_div_mul_right a b hc]
  rw [Nat.mul_right_comm b c, roundDiv_mul_right .even hc]

theorem log2_block {k f : Nat} (hf : f < 2 ^ 52) : ((2 ^ 52 + f) * 2 ^ k).log2 = 52 + k := by
  have hp : 0 < 2 ^ k := Nat.two_pow_pos k
  have hne : (2 ^ 52 + f) * 2 ^ k ≠ 0 := by
    have := Nat.mul_pos (show 0 < 2 ^ 52 + f by omega) hp
    omega
  rw [Nat.log2_eq_iff hne]
  constructor
  · rw [Nat.pow_add]
    exact Nat.mul_le_mul_right _ (by omega)
  · have : 2 ^ (52 + k + 1) = 2 ^ 53 * 2 ^ k := by rw [← Nat.pow_add]; congr 1; omega
    rw [this]
    exact Nat.mul_lt_mul_of_pos_right (by omega) hp

/-- A magnitude is the nearest to itself. -/
theorem nearestIndex_units {i : Nat} (hi : i ≤ infiniteIndex) : nearestIndex (units i) 1 = i := by
  by_cases h : i < 2 ^ 52
  · have hlog : i.log2 - 52 = 0 := by
      by_cases h0 : i = 0
      · subst h0; decide
      · have := (Nat.log2_lt h0).2 (Nat.lt_trans h (by decide : 2 ^ 52 < 2 ^ 53))
        omega
    have hu : units i = i := if_pos h
    have hr : roundDiv .even i 1 = i := by
      have := roundDiv_mul_self .even (show 0 < 1 by decide) i
      rwa [Nat.mul_one] at this
    rw [nearestIndex, Nat.div_one, hu, hlog, Nat.pow_zero, Nat.mul_one, hr, Nat.zero_mul,
      Nat.zero_add]
    exact Nat.min_eq_left hi
  · obtain ⟨k, f, hf, rfl⟩ := exists_block (Nat.le_of_not_lt h)
    have hp : 0 < 2 ^ k := Nat.two_pow_pos k
    rw [nearestIndex, Nat.div_one, units_of_block k f hf, log2_block hf, Nat.add_sub_cancel_left,
      Nat.one_mul, roundDiv_mul_self .even hp]
    omega

end Formulary.Number

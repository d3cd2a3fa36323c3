/-!
# Rounding a quotient

`roundDiv tie a b` is an integer nearest to `a / b`. A quotient halfway between two integers goes
where `tie` says.

Results.
* The result is within half a unit of the quotient (`roundDiv_le`, `le_roundDiv`).
* A whole quotient is kept (`roundDiv_mul_self`).
* Only the ratio of the two numbers matters (`roundDiv_mul_right`).
* A larger number is not rounded to less (`roundDiv_mono`).
-/

namespace Formulary.Number

/-- Where a quotient halfway between two integers goes: to the even one, or up. -/
inductive Tie
  | even
  | up
deriving DecidableEq, Repr

/-- The integer nearest to `a / b`. -/
def roundDiv (tie : Tie) (a b : Nat) : Nat :=
  if 2 * (a % b) < b then a / b
  else if b < 2 * (a % b) then a / b + 1
  else match tie with
    | .even => a / b + a / b % 2
    | .up => a / b + 1

example : roundDiv .even 5 2 = 2 ∧ roundDiv .even 7 2 = 4 ∧ roundDiv .up 5 2 = 3 := by decide

theorem roundDiv_eq_or (tie : Tie) (a b : Nat) :
    roundDiv tie a b = a / b ∨ roundDiv tie a b = a / b + 1 := by
  unfold roundDiv
  split
  · exact .inl rfl
  · split
    · exact .inr rfl
    · cases tie
      · rcases Nat.mod_two_eq_zero_or_one (a / b) with h | h <;> simp [h]
      · exact .inr rfl

/-- The result is at most half a unit above the quotient. -/
theorem roundDiv_le (tie : Tie) {a b : Nat} (hb : 0 < b) :
    2 * (b * roundDiv tie a b) ≤ 2 * a + b := by
  have hm := Nat.mod_lt a hb
  have hd := Nat.div_add_mod a b
  have hs : b * (a / b + 1) = b * (a / b) + b := Nat.mul_succ _ _
  unfold roundDiv
  split
  · omega
  · have h : ∀ n, n = a / b ∨ n = a / b + 1 → 2 * (b * n) ≤ 2 * a + b := by
      rintro n (rfl | rfl) <;> omega
    split
    · exact h _ (.inr rfl)
    · cases tie
      · exact h _ (by rcases Nat.mod_two_eq_zero_or_one (a / b) with h | h <;> simp [h])
      · exact h _ (.inr rfl)

/-- The result is at most half a unit below the quotient. -/
theorem le_roundDiv (tie : Tie) {a b : Nat} (hb : 0 < b) :
    2 * a ≤ 2 * (b * roundDiv tie a b) + b := by
  have hm := Nat.mod_lt a hb
  have hd := Nat.div_add_mod a b
  have hs : b * (a / b + 1) = b * (a / b) + b := Nat.mul_succ _ _
  unfold roundDiv
  split
  · omega
  · split
    · omega
    · cases tie
      · rcases Nat.mod_two_eq_zero_or_one (a / b) with h | h <;>
          simp only [h, Nat.add_zero] <;> omega
      · simp only; omega

theorem roundDiv_mul_self (tie : Tie) {b : Nat} (hb : 0 < b) (n : Nat) :
    roundDiv tie (n * b) b = n := by
  simp [roundDiv, hb]

/-- Only the ratio of the two numbers matters. -/
theorem roundDiv_mul_right (tie : Tie) {c : Nat} (hc : 0 < c) (a b : Nat) :
    roundDiv tie (a * c) (b * c) = roundDiv tie a b := by
  have h1 : 2 * (a % b * c) < b * c ↔ 2 * (a % b) < b := by
    rw [← Nat.mul_assoc]; exact Nat.mul_lt_mul_right hc
  have h2 : b * c < 2 * (a % b * c) ↔ b < 2 * (a % b) := by
    rw [← Nat.mul_assoc]; exact Nat.mul_lt_mul_right hc
  simp only [roundDiv, Nat.mul_div_mul_right a b hc, Nat.mul_mod_mul_right, h1, h2]

/-- A larger number is not rounded to less. -/
theorem roundDiv_mono (tie : Tie) {a a' b : Nat} (hb : 0 < b) (h : a ≤ a') :
    roundDiv tie a b ≤ roundDiv tie a' b := by
  refine Nat.le_of_not_lt fun hlt => ?_
  -- both would be halfway between the same neighbours, so the same number
  have hstep : b * (roundDiv tie a' b + 1) ≤ b * roundDiv tie a b := Nat.mul_le_mul_left b hlt
  have hle := roundDiv_le tie hb (a := a)
  have hge := le_roundDiv tie hb (a := a')
  rw [Nat.mul_succ] at hstep
  obtain rfl : a = a' := by omega
  exact Nat.lt_irrefl _ hlt

end Formulary.Number

import Formulary.Evaluation
import Formulary.Proofs.Environments
import Mathlib.Control.Monad.Basic

/-!
# Substitution

Evaluation does not see what is inside an expression that has a value. Such an expression may stand
for a variable with this value, and the value may be written in its place.

* `e.substitute name s`: `e` with `s` in place of the variable.
* `Replaces s t e e'`: `e'` is `e` with `t` in place of one occurrence of `s`.

Results.
* The test of values changes nothing where it has been made (`evaluate_bind_check`), so that numbers
  and variables with the value of an expression pass it (`check_of_evaluate`).
* Expressions with the same result may replace each other (`Replaces.evaluate_eq`).
* An expression may be substituted for a variable with its value, and its value may be written in
  its place (`evaluate_substitute`).
-/

namespace Formulary

variable {limits : Limits} {env : Environment}

/-! ## 1. The test of values -/

theorem eq_of_check_eq_ok {value v : Float} (h : limits.check value = .ok v) : value = v := by
  unfold Limits.check at h
  split at h
  · cases h
  · split at h
    · cases h
    · exact Except.ok.inj h

/-- A value that has passed the test passes it again. -/
theorem check_bind_check (value : Float) :
    limits.check value >>= limits.check = limits.check value := by
  cases h : limits.check value with
  | error error => rfl
  | ok v =>
    obtain rfl := eq_of_check_eq_ok h
    exact h

/-- Every value has passed the test. -/
theorem evaluate_bind_check (e : Expr) :
    e.evaluate limits env >>= limits.check = e.evaluate limits env := by
  cases e with
  | number value => exact check_bind_check value
  | var name => exact check_bind_check (env.get name)
  | call function argument =>
    rw [Expr.evaluate]
    simp only [bind_assoc, check_bind_check]
  | binary op left right =>
    rw [Expr.evaluate]
    simp only [bind_assoc, check_bind_check]

theorem check_of_evaluate {e : Expr} {v : Float} (h : e.evaluate limits env = .ok v) :
    limits.check v = .ok v := by
  have hcheck : e.evaluate limits env >>= limits.check = _ := evaluate_bind_check e
  rw [h] at hcheck
  exact hcheck

/-! ## 2. Substitution for a variable -/

/-- The expression with `s` in place of the variable, wherever it occurs. -/
def Expr.substitute (e : Expr) (name : Char) (s : Expr) : Expr :=
  match e with
  | number value => number value
  | var other => if other = name then s else var other
  | call function argument => call function (argument.substitute name s)
  | binary op left right => binary op (left.substitute name s) (right.substitute name s)

/-- An expression may be substituted for a variable that has its value. -/
theorem evaluate_substitute_var {s : Expr} {v : Float} (h : s.evaluate limits env = .ok v)
    (name : Char) (e : Expr) :
    (e.substitute name s).evaluate limits env = e.evaluate limits (env.set name v) := by
  induction e with
  | number value => rfl
  | var other =>
    rw [Expr.substitute, Expr.evaluate, Environment.get_set]
    split
    · -- as the value of the variable, `v` is tested once more
      rw [h, check_of_evaluate h]
    · rfl
  | call function argument ih =>
    rw [Expr.substitute, Expr.evaluate, Expr.evaluate, ih]
  | binary op left right ihl ihr =>
    rw [Expr.substitute, Expr.evaluate, Expr.evaluate, ihl, ihr]

/-! ## 3. Replacement of one occurrence -/

/-- The last expression is the third with `t` in place of one occurrence of `s`. -/
inductive Replaces (s t : Expr) : Expr → Expr → Prop
  | here : Replaces s t s t
  | argument {function : Logarithm} {e e' : Expr} :
      Replaces s t e e' → Replaces s t (.call function e) (.call function e')
  | left {op : Operator} {e e' right : Expr} :
      Replaces s t e e' → Replaces s t (.binary op e right) (.binary op e' right)
  | right {op : Operator} {left e e' : Expr} :
      Replaces s t e e' → Replaces s t (.binary op left e) (.binary op left e')

/-- Expressions with the same result may replace each other. -/
theorem Replaces.evaluate_eq {s t e e' : Expr} (h : Replaces s t e e')
    (hresult : t.evaluate limits env = s.evaluate limits env) :
    e'.evaluate limits env = e.evaluate limits env := by
  induction h with
  | here => exact hresult
  | argument _ ih => rw [Expr.evaluate, Expr.evaluate, ih]
  | left _ ih => rw [Expr.evaluate, Expr.evaluate, ih]
  | right _ ih => rw [Expr.evaluate, Expr.evaluate, ih]

/-! ## 4. Expressions that have a value -/

/-- An expression that has a value may be substituted for a variable with this value, and the value
may be written in place of any one of its occurrences. -/
theorem evaluate_substitute {s : Expr} {v : Float} (h : s.evaluate limits env = .ok v) :
    (∀ (name : Char) (e : Expr),
      (e.substitute name s).evaluate limits env = e.evaluate limits (env.set name v)) ∧
    ∀ e e', Replaces s (.number v) e e' → e'.evaluate limits env = e.evaluate limits env :=
  ⟨evaluate_substitute_var h, fun _ _ hreplaces =>
    hreplaces.evaluate_eq ((check_of_evaluate h).trans h.symm)⟩

namespace SubstitutionLemmas

/-- The variable `z` has no number as its value. -/
def withNan : Environment :=
  .ofList [('y', 3), ('z', Number.nan)]

end SubstitutionLemmas

open SubstitutionLemmas

/-- With `y*2` for `x`, or with its value 6, the divisor in `1/(x-6)+z` is zero, and the value of
`z` is not looked at. -/
theorem evaluate_substitute_zero :
    ∃ s e e' : Expr, parseFormula "y*2" = .ok s ∧ parseFormula "1/(x-6)+z" = .ok e ∧
      parseFormula "1/(6-6)+z" = .ok e' ∧
      s.evaluate {} withNan = .ok 6 ∧ Replaces s (.number 6) (e.substitute 'x' s) e' ∧
      (e.substitute 'x' s).evaluate {} withNan = e.evaluate {} (withNan.set 'x' 6) ∧
      e'.evaluate {} withNan = (e.substitute 'x' s).evaluate {} withNan ∧
      e'.evaluate {} withNan = .error .divisionByZero := by
  have hs : (Expr.binary .multiply (.var 'y') (.number 2)).evaluate {} withNan = .ok 6 := by
    decide +kernel
  refine ⟨_, .binary .add
      (.binary .divide (.number 1) (.binary .subtract (.var 'x') (.number 6))) (.var 'z'),
    .binary .add
      (.binary .divide (.number 1) (.binary .subtract (.number 6) (.number 6))) (.var 'z'),
    ?_, ?_, ?_, hs, .left (.right (.left .here)), (evaluate_substitute hs).1 'x' _,
    (evaluate_substitute hs).2 _ _ (.left (.right (.left .here))), ?_⟩
  all_goals decide +kernel

end Formulary

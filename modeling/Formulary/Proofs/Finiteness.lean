import Formulary.Proofs.Ordering
import Formulary.Proofs.Postorder
import Formulary.Proofs.Substitution

/-!
# Finite values

Literals, the values of variables and results pass the same test before anything else sees them. So
evaluation works with finite numbers within the limit, whatever doubles the expression, the
environment and the limits hold.

* `limits.Admits v`: `v` is finite and its magnitude is not above the limit.
* `s.PartOf e`: `s` is `e` or stands below the root of `e`.
* `e.Raises limits env error`: what is below the root of `e` has values, and the root fails with the
  error.

Results.
* The test lets through what is admitted, and nothing else (`check_eq_ok_iff`).
* A visit of the machine keeps what is on the stack admitted, and so does a run (`admits_visit`,
  `admits_run`).
* The parts of an expression that has a value have values (`PartOf.exists_value`).
* An error is raised by a part (`exists_raises`).
* Values and operands are admitted, and errors name what has occurred (`evaluate_admits`).
-/

namespace Formulary

open Number (place? ofIndex)

/-! ## 1. Values that pass the test -/

/-- The value is finite, and its magnitude is not above the limit. A limit that is no number is
below nothing. -/
structure Limits.Admits (limits : Limits) (value : Float) : Prop where
  finite : value.isFinite = true
  magnitude : ¬ value.abs > limits.maxMagnitude

variable {limits : Limits} {env : Environment} {value v : Float} {error : EvalError}

/-- The test lets through what is admitted, and nothing else. -/
theorem check_eq_ok_iff : limits.check value = .ok v ↔ limits.Admits value ∧ value = v := by
  constructor
  · intro h
    refine ⟨?_, eq_of_check_eq_ok h⟩
    unfold Limits.check at h
    split at h
    · cases h
    · next hfinite =>
      split at h
      · cases h
      · next hmagnitude => exact ⟨by simpa using hfinite, hmagnitude⟩
  · rintro ⟨⟨hfinite, hmagnitude⟩, rfl⟩
    rw [Limits.check, hfinite, if_neg (by decide), if_neg hmagnitude]

theorem admits_of_evaluate {e : Expr} (h : e.evaluate limits env = .ok v) : limits.Admits v :=
  (check_eq_ok_iff.1 (check_of_evaluate h)).1

/-- A magnitude that is not above a limit that is a number is below it or equal. -/
theorem Limits.Admits.abs_le {i : Int} (h : limits.Admits v)
    (hlimit : place? limits.maxMagnitude = some i) : v.abs ≤ limits.maxMagnitude := by
  have hparts := Number.parts_eq_finite_iff.2 ⟨h.finite, rfl, rfl⟩
  exact Number.le_of_not_lt (Number.place?_abs hparts) hlimit h.magnitude

/-! ## 2. Values on the stack -/

namespace Machine

variable {nodes : List Node} {node : Node} {stack stack' : List Float}

/-- What is left on the stack was there before. -/
theorem take?_isSuffix {rule : Rule} (h : node.take? limits env stack = some (rule, stack')) :
    stack' <:+ stack := by
  cases node with
  | number _ | var _ =>
    cases h
    exact List.suffix_refl _
  | call _ =>
    match stack, h with
    | _ :: _, rfl => exact List.suffix_cons _ _
  | binary _ =>
    match stack, h with
    | _ :: _ :: _, rfl => exact (List.suffix_cons _ _).trans (List.suffix_cons _ _)

theorem admits_result {rule : Rule} (h : rule.result limits = .ok v) : limits.Admits v := by
  unfold Rule.result at h
  split at h
  · cases h
  · next hnone =>
    cases h
    have hchecks : ∀ check ∈ limits.checks rule.value, check.fails = false := fun check hcheck => by
      simpa using List.find?_eq_none.1 hnone check (List.mem_append_right _ hcheck)
    obtain ⟨hfinite, hmagnitude⟩ := List.forall_mem_cons.1 hchecks
    exact ⟨by simpa using hfinite, by simpa using List.forall_mem_singleton.1 hmagnitude⟩

/-- A visit keeps what is on the stack admitted. -/
theorem admits_visit (h : visit limits env node stack = .running stack')
    (hstack : ∀ v ∈ stack, limits.Admits v) : ∀ v ∈ stack', limits.Admits v := by
  unfold visit at h
  split at h
  · next rule rest htake =>
    have hrest : ∀ v ∈ rest, limits.Admits v := fun v hv =>
      hstack v ((take?_isSuffix htake).subset hv)
    cases hresult : rule.result limits with
    | error error =>
      rw [hresult] at h
      cases h
    | ok value =>
      rw [hresult] at h
      cases h
      exact List.forall_mem_cons.2 ⟨admits_result hresult, hrest⟩
  · cases h

/-- A run keeps what is on the stack admitted. -/
theorem admits_run (h : run limits env nodes stack = .running stack')
    (hstack : ∀ v ∈ stack, limits.Admits v) : ∀ v ∈ stack', limits.Admits v := by
  induction nodes generalizing stack with
  | nil =>
    cases h
    exact hstack
  | cons node nodes ih =>
    rw [run] at h
    cases hvisit : visit limits env node stack with
    | running middle =>
      rw [hvisit] at h
      exact ih h (admits_visit hvisit hstack)
    | failed error =>
      rw [hvisit] at h
      cases h
    | stuck =>
      rw [hvisit] at h
      cases h

end Machine

/-! ## 3. Parts -/

/-- The first expression is the second or stands below its root. -/
inductive Expr.PartOf (s : Expr) : Expr → Prop
  | whole : PartOf s s
  | argument {function : Logarithm} {e : Expr} : PartOf s e → PartOf s (.call function e)
  | left {op : Operator} {e right : Expr} : PartOf s e → PartOf s (.binary op e right)
  | right {op : Operator} {left e : Expr} : PartOf s e → PartOf s (.binary op left e)

/-- What is below the root of the expression has values, and the root fails with the error. -/
inductive Expr.Raises (limits : Limits) (env : Environment) (error : EvalError) : Expr → Prop
  | number {value : Float} :
      limits.check value = .error error → Raises limits env error (.number value)
  | var {name : Char} :
      limits.check (env.get name) = .error error → Raises limits env error (.var name)
  | call {function : Logarithm} {argument : Expr} {v : Float} :
      argument.evaluate limits env = .ok v → function.apply v >>= limits.check = .error error →
      Raises limits env error (.call function argument)
  | binary {op : Operator} {left right : Expr} {l r : Float} :
      left.evaluate limits env = .ok l → right.evaluate limits env = .ok r →
      op.apply limits l r >>= limits.check = .error error →
      Raises limits env error (.binary op left right)

open Formulary.Expr (PartOf Raises)

variable {s e : Expr}

namespace FinitenessLemmas

variable {r : Except EvalError Float} {f : Float → Except EvalError Float}

theorem exists_of_bind_eq_ok (h : r >>= f = .ok v) : ∃ w, r = .ok w ∧ f w = .ok v := by
  cases r with
  | error error => cases h
  | ok w => exact ⟨w, rfl, h⟩

theorem exists_of_bind_eq_error (h : r >>= f = .error error) :
    r = .error error ∨ ∃ w, r = .ok w ∧ f w = .error error := by
  cases r with
  | error error' => exact .inl h
  | ok w => exact .inr ⟨w, rfl, h⟩

end FinitenessLemmas

open FinitenessLemmas

/-- The parts of an expression that has a value have values. -/
theorem Expr.PartOf.exists_value (h : s.PartOf e) (hvalue : ∃ v, e.evaluate limits env = .ok v) :
    ∃ w, s.evaluate limits env = .ok w := by
  induction h with
  | whole => exact hvalue
  | argument _ ih =>
    obtain ⟨v, hv⟩ := hvalue
    obtain ⟨w, hw, -⟩ := exists_of_bind_eq_ok hv
    exact ih ⟨w, hw⟩
  | left _ ih =>
    obtain ⟨v, hv⟩ := hvalue
    obtain ⟨l, hl, -⟩ := exists_of_bind_eq_ok hv
    exact ih ⟨l, hl⟩
  | right _ ih =>
    obtain ⟨v, hv⟩ := hvalue
    obtain ⟨l, -, hv⟩ := exists_of_bind_eq_ok hv
    obtain ⟨r, hr, -⟩ := exists_of_bind_eq_ok hv
    exact ih ⟨r, hr⟩

/-- An error is raised by a part. -/
theorem exists_raises (h : e.evaluate limits env = .error error) :
    ∃ s : Expr, s.PartOf e ∧ s.Raises limits env error := by
  induction e with
  | number value => exact ⟨_, .whole, .number h⟩
  | var name => exact ⟨_, .whole, .var h⟩
  | call function argument ih =>
    obtain hargument | ⟨v, hv, hroot⟩ := exists_of_bind_eq_error h
    · obtain ⟨s, hs, hraises⟩ := ih hargument
      exact ⟨s, .argument hs, hraises⟩
    · exact ⟨_, .whole, .call hv hroot⟩
  | binary op left right ihl ihr =>
    obtain hleft | ⟨l, hl, h⟩ := exists_of_bind_eq_error h
    · obtain ⟨s, hs, hraises⟩ := ihl hleft
      exact ⟨s, .left hs, hraises⟩
    obtain hright | ⟨r, hr, hroot⟩ := exists_of_bind_eq_error h
    · obtain ⟨s, hs, hraises⟩ := ihr hright
      exact ⟨s, .right hs, hraises⟩
    · exact ⟨_, .whole, .binary hl hr hroot⟩

/-! ## 4. What errors tell -/

namespace FinitenessLemmas

/-- The errors that no logarithm and no division raises before it has a result. -/
def resultErrors : List EvalError :=
  [.exponentTooLarge, .baseTooLarge, .notFinite, .outOfRange]

theorem mem_resultErrors_of_check (h : limits.check value = .error error) :
    error ∈ resultErrors := by
  unfold Limits.check at h
  split at h
  · cases h
    decide
  · split at h
    · cases h
      decide
    · cases h

theorem logarithm_error {function : Logarithm}
    (h : function.apply value >>= limits.check = .error error) :
    value ≤ 0 ∧ error = .logarithmDomain value ∨ error ∈ resultErrors := by
  unfold Logarithm.apply at h
  split at h
  · next hdomain =>
    cases h
    exact .inl ⟨hdomain, rfl⟩
  · cases function <;> exact .inr (mem_resultErrors_of_check h)

theorem operator_error {op : Operator} {l r : Float}
    (h : op.apply limits l r >>= limits.check = .error error) :
    op = .divide ∧ (r == 0) = true ∧ error = .divisionByZero ∨ error ∈ resultErrors := by
  cases op with
  | divide =>
    unfold Operator.apply at h
    dsimp only at h
    split at h
    · next hzero =>
      cases h
      exact .inl ⟨rfl, hzero, rfl⟩
    · exact .inr (mem_resultErrors_of_check h)
  | power =>
    unfold Operator.apply at h
    dsimp only at h
    split at h
    · cases h
      exact .inr (by decide)
    · split at h
      · cases h
        exact .inr (by decide)
      · exact .inr (mem_resultErrors_of_check h)
  | _ => exact .inr (mem_resultErrors_of_check h)

end FinitenessLemmas

/-- A logarithm fails for its domain on the value of its argument, which is not positive. -/
theorem exists_call_of_logarithmDomain
    (h : e.evaluate limits env = .error (.logarithmDomain v)) :
    v ≤ 0 ∧ ∃ function argument, (Expr.call function argument).PartOf e ∧
      argument.evaluate limits env = .ok v := by
  obtain ⟨s, hs, hraises⟩ := exists_raises h
  cases hraises with
  | number hcheck => exact absurd (mem_resultErrors_of_check hcheck) (by simp [resultErrors])
  | var hcheck => exact absurd (mem_resultErrors_of_check hcheck) (by simp [resultErrors])
  | call hargument happly =>
    obtain ⟨hdomain, heq⟩ | hmem := logarithm_error happly
    · cases heq
      exact ⟨hdomain, _, _, hs, hargument⟩
    · exact absurd hmem (by simp [resultErrors])
  | binary _ _ happly =>
    obtain ⟨-, -, heq⟩ | hmem := operator_error happly
    · cases heq
    · exact absurd hmem (by simp [resultErrors])

/-- A division fails when the value of its divisor is one of the two zeros. -/
theorem exists_divide_of_divisionByZero (h : e.evaluate limits env = .error .divisionByZero) :
    ∃ left right negative, (Expr.binary .divide left right).PartOf e ∧
      right.evaluate limits env = .ok (ofIndex negative 0) := by
  obtain ⟨s, hs, hraises⟩ := exists_raises h
  cases hraises with
  | number hcheck => exact absurd (mem_resultErrors_of_check hcheck) (by decide)
  | var hcheck => exact absurd (mem_resultErrors_of_check hcheck) (by decide)
  | call _ happly =>
    obtain ⟨-, heq⟩ | hmem := logarithm_error happly
    · cases heq
    · exact absurd hmem (by decide)
  | binary _ hright happly =>
    obtain ⟨rfl, hzero, -⟩ | hmem := operator_error happly
    · obtain ⟨i, hi, hi'⟩ := Number.beq_iff.1 hzero
      have hplace : place? 0 = some 0 := by decide +kernel
      obtain ⟨negative, rfl⟩ := Number.exists_eq_zero (hi.trans (hi'.symm.trans hplace))
      exact ⟨_, _, negative, hs, hright⟩
    · exact absurd hmem (by decide)

/-! ## 5. Evaluation -/

open Machine

/-- Evaluation works with admitted values only. The value of a part is finite and not above the
limit on magnitudes, which is at most `1e308` with the limits that are the default; so are the
operands that wait on the stack whenever a node is visited. If the whole has a value, so has every
part. A logarithm fails for its domain only on a finite argument that is not positive, and a
division only on a divisor that is one of the two zeros. -/
theorem evaluate_admits (limits : Limits) (env : Environment) (e : Expr) :
    (∀ (s : Expr) v, s.PartOf e → s.evaluate limits env = .ok v →
      v.isFinite = true ∧ ¬ v.abs > limits.maxMagnitude) ∧
    (∀ (s : Expr) v, s.PartOf e → s.evaluate {} env = .ok v → v.abs ≤ 1e308) ∧
    (∀ before node after stack, e.nodes = before ++ node :: after →
      run limits env before [] = .running stack →
      ∀ v ∈ stack, v.isFinite = true ∧ ¬ v.abs > limits.maxMagnitude) ∧
    (∀ v, e.evaluate limits env = .ok v →
      ∀ s : Expr, s.PartOf e → ∃ w, s.evaluate limits env = .ok w) ∧
    (∀ v, e.evaluate limits env = .error (.logarithmDomain v) →
      v.isFinite = true ∧ v ≤ 0 ∧ ∃ function argument,
        (Expr.call function argument).PartOf e ∧ argument.evaluate limits env = .ok v) ∧
    (e.evaluate limits env = .error .divisionByZero →
      ∃ left right negative, (Expr.binary .divide left right).PartOf e ∧
        right.evaluate limits env = .ok (ofIndex negative 0)) := by
  refine ⟨fun s v _ hv => ?_, fun s v _ hv => ?_, fun before node after stack _ hrun v hv => ?_,
    fun v hv s hs => hs.exists_value ⟨v, hv⟩, fun v hv => ?_, exists_divide_of_divisionByZero⟩
  · have hadmits := admits_of_evaluate hv
    exact ⟨hadmits.finite, hadmits.magnitude⟩
  · have hplace : place? ({} : Limits).maxMagnitude = some 0x7FE1CCF385EBC8A0 := by
      decide +kernel
    exact (admits_of_evaluate hv).abs_le hplace
  · have hadmits := admits_run hrun (List.forall_mem_nil _) v hv
    exact ⟨hadmits.finite, hadmits.magnitude⟩
  · obtain ⟨hdomain, function, argument, hpart, hargument⟩ := exists_call_of_logarithmDomain hv
    exact ⟨(admits_of_evaluate hargument).finite, hdomain, function, argument, hpart, hargument⟩

namespace FinitenessLemmas

/-- The variable `z` is infinite. -/
def withInfinity : Environment :=
  .ofList [('x', 5), ('z', ofIndex false Number.infiniteIndex)]

end FinitenessLemmas

/-- In `2*ln(x-9)+z` a logarithm has the argument -4, in `2/(5-x)+z` a divisor is zero, and the
infinity in `z` is not looked at. In `x*x` the value and both operands are finite. -/
theorem evaluate_admits_five :
    ∃ call quotient product : Expr, parseFormula "2*ln(x-9)+z" = .ok call ∧
      parseFormula "2/(5-x)+z" = .ok quotient ∧ parseFormula "x*x" = .ok product ∧
      call.evaluate {} withInfinity = .error (.logarithmDomain (-4)) ∧
      (∃ function argument, (Expr.call function argument).PartOf call ∧
        argument.evaluate {} withInfinity = .ok (-4)) ∧
      quotient.evaluate {} withInfinity = .error .divisionByZero ∧
      (∃ left right negative, (Expr.binary .divide left right).PartOf quotient ∧
        right.evaluate {} withInfinity = .ok (ofIndex negative 0)) ∧
      product.evaluate {} withInfinity = .ok 25 ∧
      (Expr.var 'x').PartOf product ∧ (∃ w, (Expr.var 'x').evaluate {} withInfinity = .ok w) ∧
      (25 : Float).abs ≤ 1e308 := by
  have hcall : (Expr.binary .add (.binary .multiply (.number 2)
      (.call .natural (.binary .subtract (.var 'x') (.number 9)))) (.var 'z')).evaluate {}
        withInfinity = .error (.logarithmDomain (-4)) := by
    decide +kernel
  have hquotient : (Expr.binary .add (.binary .divide (.number 2)
      (.binary .subtract (.number 5) (.var 'x'))) (.var 'z')).evaluate {}
        withInfinity = .error .divisionByZero := by
    decide +kernel
  have hproduct : (Expr.binary .multiply (.var 'x') (.var 'x')).evaluate {} withInfinity =
      .ok 25 := by
    decide +kernel
  obtain ⟨-, -, -, -, hlogarithm, -⟩ := evaluate_admits {} withInfinity (.binary .add _ _)
  obtain ⟨-, -, -, -, -, hdivision⟩ := evaluate_admits {} withInfinity (.binary .add _ _)
  obtain ⟨-, hvalues, -, hparts, -⟩ :=
    evaluate_admits {} withInfinity (.binary .multiply (.var 'x') (.var 'x'))
  refine ⟨_, _, _, ?_, ?_, ?_, hcall, (hlogarithm _ hcall).2.2, hquotient, hdivision hquotient,
    hproduct, .left .whole, hparts _ hproduct _ (.left .whole), hvalues _ _ .whole hproduct⟩
  all_goals decide +kernel

end Formulary

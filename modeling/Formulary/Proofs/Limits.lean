import Mathlib.Control.Monad.Basic
import Formulary.Evaluation
import Formulary.Proofs.Ordering

/-!
# Evaluation under tighter limits

Limits only cut off. Where no limit is higher, evaluation has the same result, or a limit ends it
before.

* `limits.Tighter limits'`: no limit of `limits` is above that of `limits'`.
* `limitErrors`: the errors of the limits.
* `CutOff r r'`: the result `r` is `r'`, unless a limit has cut it off.

Results.
* What follows on a result that is cut off is cut off as well (`CutOff.bind`), and so is what
  follows on a test that a limit makes (`CutOff.guard`).
* An expression has the same result under tighter limits, unless they cut it off
  (`evaluate_tighter`).
-/

namespace Formulary

/-! ## 1. Results that are cut off -/

/-- No limit of the first is above that of the second. What is no number is neither above nor below
anything, so all of them are numbers. -/
structure Limits.Tighter (limits limits' : Limits) : Prop where
  exponent : limits.maxExponent ≤ limits'.maxExponent
  powerBase : limits.maxPowerBase ≤ limits'.maxPowerBase
  magnitude : limits.maxMagnitude ≤ limits'.maxMagnitude

/-- The errors of the limits. -/
def limitErrors : List EvalError :=
  [.exponentTooLarge, .baseTooLarge, .outOfRange]

variable {α β : Type}

/-- The first result is the second, or the error of a limit. -/
def CutOff (r r' : Except EvalError α) : Prop :=
  r = r' ∨ ∃ error ∈ limitErrors, r = .error error

namespace CutOff

variable {r r' : Except EvalError α}

theorem refl (r : Except EvalError α) : CutOff r r :=
  .inl rfl

/-- What follows on a result that is cut off is cut off as well. -/
theorem bind {f f' : α → Except EvalError β} (hr : CutOff r r')
    (hf : ∀ a, CutOff (f a) (f' a)) : CutOff (r >>= f) (r' >>= f') := by
  rcases hr with rfl | ⟨error, herror, rfl⟩
  · cases r with
    | error error => exact .refl _
    | ok a => exact hf a
  · exact .inr ⟨error, herror, rfl⟩

/-- A test of a limit that ends what the looser test ends. -/
theorem guard {p p' : Prop} [Decidable p] [Decidable p'] {error : EvalError}
    (herror : error ∈ limitErrors) (hp : p' → p) (hr : CutOff r r') :
    CutOff (if p then .error error else r) (if p' then .error error else r') := by
  by_cases h : p
  · rw [if_pos h]
    exact .inr ⟨error, herror, rfl⟩
  · rw [if_neg h, if_neg (fun h' => h (hp h'))]
    exact hr

/-- A value that is cut off at most is the value. -/
theorem eq_ok {a : α} (h : CutOff r r') (hr : r = .ok a) : r' = .ok a := by
  rcases h with rfl | ⟨error, -, rfl⟩
  · exact hr
  · cases hr

end CutOff

/-! ## 2. Values, operations and expressions -/

variable {limits limits' : Limits}

theorem cutOff_check (h : limits.Tighter limits') (value : Float) :
    CutOff (limits.check value) (limits'.check value) := by
  unfold Limits.check
  split
  · exact .refl _
  · exact .guard (by decide) (Number.lt_of_le_of_lt h.magnitude) (.refl _)

theorem cutOff_apply (h : limits.Tighter limits') (op : Operator) (left right : Float) :
    CutOff (op.apply limits left right) (op.apply limits' left right) := by
  cases op with
  | power =>
    refine .guard (by decide) (Number.lt_of_le_of_lt h.exponent) ?_
    refine .guard (by decide) (fun hbase => ?_) (.refl _)
    rw [Bool.and_eq_true_iff, decide_eq_true_iff] at hbase ⊢
    exact hbase.imp_left (Number.lt_of_le_of_lt h.powerBase)
  | _ => exact .refl _

theorem cutOff_evaluate (h : limits.Tighter limits') (env : Environment) (e : Expr) :
    CutOff (e.evaluate limits env) (e.evaluate limits' env) := by
  induction e with
  | number value => exact cutOff_check h value
  | var name => exact cutOff_check h (env.get name)
  | call function argument ih =>
    rw [Expr.evaluate, Expr.evaluate]
    exact ih.bind fun value => (CutOff.refl (function.apply value)).bind (cutOff_check h)
  | binary op left right ihl ihr =>
    rw [Expr.evaluate, Expr.evaluate]
    exact ihl.bind fun l => ihr.bind fun r => (cutOff_apply h op l r).bind (cutOff_check h)

/-- Under tighter limits an expression has the same result, or the error of a limit. So what has a
value under tighter limits has the same value under looser ones. -/
theorem evaluate_tighter (h : limits.Tighter limits') (env : Environment) (e : Expr) :
    (e.evaluate limits env = e.evaluate limits' env ∨
      ∃ error ∈ limitErrors, e.evaluate limits env = .error error) ∧
    ∀ v, e.evaluate limits env = .ok v → e.evaluate limits' env = .ok v :=
  have hcut := cutOff_evaluate h env e
  ⟨hcut, fun _ => hcut.eq_ok⟩

namespace LimitsLemmas

/-- Limits of which one is the default and two are below it. -/
def tight : Limits where
  maxExponent := 10
  maxMagnitude := 1000

def factors : Environment :=
  .ofList [('x', 30), ('y', 40)]

theorem tight_tighter : tight.Tighter {} := by
  constructor <;> decide +kernel

end LimitsLemmas

open LimitsLemmas

/-- A product of 1200 is cut off at 1000, and the sum of its factors is 70 under either limit. -/
theorem evaluate_tighter_product :
    ∃ product sum : Expr, parseFormula "x*y" = .ok product ∧ parseFormula "x+y" = .ok sum ∧
      tight.Tighter {} ∧
      product.evaluate tight factors = .error .outOfRange ∧ product.evaluate {} factors = .ok 1200 ∧
      (product.evaluate tight factors = product.evaluate {} factors ∨
        ∃ error ∈ limitErrors, product.evaluate tight factors = .error error) ∧
      sum.evaluate tight factors = .ok 70 ∧ sum.evaluate {} factors = .ok 70 := by
  refine ⟨.binary .multiply (.var 'x') (.var 'y'), .binary .add (.var 'x') (.var 'y'),
    by decide +kernel, by decide +kernel, tight_tighter, by decide +kernel, by decide +kernel,
    (evaluate_tighter tight_tighter _ _).1, ?_, (evaluate_tighter tight_tighter _ _).2 70 ?_⟩
  · decide +kernel
  · decide +kernel

end Formulary

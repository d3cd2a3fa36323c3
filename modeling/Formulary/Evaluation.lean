import Formulary.Environment
import Formulary.Expr.Parse

/-!
# The value of an expression

Every number, every variable and every result of an operation passes the same test: it must be
finite, and its magnitude must keep to a limit. Operations are done in the order of the tree, left
operand first, and the first failure is the answer.

* `Limits`: the three limits of an evaluation, which may be any doubles.
* `limits.check v`: the test.
* `f.apply v`: a logarithm, of positive arguments only.
* `op.apply limits l r`: an operation. A divisor must not be zero; for `^` the limits are tested
  before the power is computed.
* `e.evaluate limits env`: the value of an expression.
-/

namespace Formulary

/-! ## 1. Limits and errors -/

/-- Limits on the numbers of an evaluation. -/
structure Limits where
  /-- The largest exponent of `^`. -/
  maxExponent : Float := 1000
  /-- The largest magnitude of a base whose exponent is above 2. -/
  maxPowerBase : Float := 1e154
  /-- The largest magnitude of any value. -/
  maxMagnitude : Float := 1e308
deriving DecidableEq

/-- Why an expression has no value. -/
inductive EvalError
  | divisionByZero
  /-- The argument of a logarithm is not positive. -/
  | logarithmDomain (argument : Float)
  | exponentTooLarge
  | baseTooLarge
  /-- A value is no finite number. -/
  | notFinite
  /-- The magnitude of a value is beyond the limit. -/
  | outOfRange
deriving DecidableEq

/-- The text that reports the error. -/
def EvalError.message : EvalError → String
  | divisionByZero => "Division by zero"
  | logarithmDomain argument => "Cannot compute logarithm of " ++ Number.plainText argument
  | exponentTooLarge => "Maximum value reached: Exponent too large"
  | baseTooLarge => "Maximum value reached: Base value too large for exponentiation"
  | notFinite => "Maximum value reached: Result is too large"
  | outOfRange => "Maximum value reached: Result exceeds safe calculation limit"

/-! ## 2. One step -/

/-- The value, if it is finite and within the limit on magnitudes. -/
def Limits.check (limits : Limits) (value : Float) : Except EvalError Float :=
  if !value.isFinite then .error .notFinite
  else if value.abs > limits.maxMagnitude then .error .outOfRange
  else .ok value

/-- The logarithm of a positive argument. -/
def Logarithm.apply (function : Logarithm) (argument : Float) : Except EvalError Float :=
  if argument ≤ 0 then .error (.logarithmDomain argument)
  else match function with
    | natural => .ok argument.log
    | common => .ok argument.log10

/-- The result of the operation. -/
def Operator.apply (limits : Limits) (op : Operator) (left right : Float) :
    Except EvalError Float :=
  match op with
  | add => .ok (left + right)
  | subtract => .ok (left - right)
  | multiply => .ok (left * right)
  | divide => if right == 0 then .error .divisionByZero else .ok (left / right)
  | power =>
    if right > limits.maxExponent then .error .exponentTooLarge
    else if left.abs > limits.maxPowerBase && right > 2 then .error .baseTooLarge
    else .ok (left.pow right)

/-! ## 3. Expressions -/

/-- The value of the expression. -/
def Expr.evaluate (limits : Limits) (env : Environment) : Expr → Except EvalError Float
  | number value => limits.check value
  | var name => limits.check (env.get name)
  | call function argument => do
    let value ← argument.evaluate limits env
    limits.check (← function.apply value)
  | binary op left right => do
    let l ← left.evaluate limits env
    let r ← right.evaluate limits env
    limits.check (← op.apply limits l r)

/-- Why a formula has no value: its text is no formula, or its evaluation fails. -/
inductive FormulaError
  | parse (error : ParseError)
  | eval (error : EvalError)
deriving DecidableEq

/-- The text that reports the error. -/
def FormulaError.message : FormulaError → String
  | parse error => error.message
  | eval error => error.message

/-- The value of a formula's text. -/
def evaluateFormula (limits : Limits) (env : Environment) (formula : String) :
    Except FormulaError Float :=
  match parseFormula formula with
  | .error error => .error (.parse error)
  | .ok e => (e.evaluate limits env).mapError .eval

end Formulary

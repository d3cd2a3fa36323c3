import Formulary.Display
import Formulary.Evaluation
import Formulary.Expr.Markup

/-!
# A session at the calculator

A session is what an editor of one formula keeps between edits: the text, the values of its
variables, the expression and its markup, and the outcome of the last evaluation.

* `Session.start limits`: nothing has been typed.
* `s.setFormula text`: the text is replaced. Variables that stay keep their values.
* `s.setVariable name text`: a variable gets the value of a typed text. Names that the formula does
  not use are ignored.
* `o.text`: what is shown as the outcome.
-/

namespace Formulary

/-! ## 1. Outcomes -/

/-- What the last evaluation gave. -/
inductive Outcome
  /-- The formula is blank. -/
  | empty
  | value (value : Float)
  | error (error : FormulaError)
deriving DecidableEq

/-- The outcome of an evaluation. -/
def Outcome.ofResult : Except EvalError Float → Outcome
  | .ok v => value v
  | .error e => error (.eval e)

/-- The value, if there is one. -/
def Outcome.value? : Outcome → Option Float
  | value v => some v
  | _ => none

/-- The error, if there is one. -/
def Outcome.error? : Outcome → Option FormulaError
  | error e => some e
  | _ => none

/-- What is shown as the outcome. -/
def Outcome.text : Outcome → String
  | empty => "-"
  | value v => display v
  | error e => e.message

/-! ## 2. Sessions -/

/-- What an editor of one formula keeps between edits. -/
structure Session where
  limits : Limits
  formula : String
  environment : Environment
  expr? : Option Expr
  markup : String
  outcome : Outcome
deriving DecidableEq

namespace Session

/-- A session in which nothing has been typed. -/
def start (limits : Limits) : Session where
  limits := limits
  formula := ""
  environment := .empty
  expr? := none
  markup := ""
  outcome := .empty

/-- The outcome of evaluating the expression again; without one it stays. -/
def reevaluate (s : Session) : Session :=
  match s.expr? with
  | none => s
  | some e => { s with outcome := .ofResult (e.evaluate s.limits s.environment) }

/-- Replaces the text of the formula. -/
def setFormula (s : Session) (formula : String) : Session :=
  let s := { s with formula := formula, environment := .forFormula formula s.environment }
  if Text.isBlankText formula then { s with expr? := none, markup := "", outcome := .empty }
  else match parseFormula formula with
    | .ok e => reevaluate { s with expr? := some e, markup := render e }
    | .error error =>
      { s with expr? := none, markup := formula, outcome := .error (.parse error) }

/-- Gives a variable of the formula the value of a typed text. -/
def setVariable (s : Session) (name : Char) (text : String) : Session :=
  if s.environment.contains name then
    reevaluate { s with environment := s.environment.setText name text }
  else s

end Session

end Formulary

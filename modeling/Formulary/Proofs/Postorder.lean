import Formulary.Evaluation

/-!
# Evaluation on a stack

A machine visits the nodes of an expression from the leaves up, each after those below it and the
left operand before the right one. A node takes its operands from a stack of values and puts its own
value there. The machine comes to the same result as evaluation, so the first node that fails
decides.

* `e.nodes`: the nodes of `e` in the order of the visits.
* `Rule`: what a node checks, in order, and its value if no check fails.
* `node.take? limits env stack`: the node's rule for the operands on the stack, and the stack
  without them.
* `Machine.visit limits env node stack`, `Machine.run limits env nodes stack`: the machine after a
  visit, and after several.

Results.
* A rule gives the result of the operation, with the test of its value (`result_logarithm`,
  `result_operator`).
* The nodes of an expression put its value on the stack, whatever is there, or fail with its error
  (`run_nodes`).
* The machine fails where a node fails and those before it do not (`run_eq_failed_iff`).
* Evaluation is a run of the machine (`evaluate_eq_run`).
-/

namespace Formulary

/-! ## 1. Nodes -/

/-- A node of an expression, without what is below it. -/
inductive Node
  | number (value : Float)
  | var (name : Char)
  | call (function : Logarithm)
  | binary (op : Operator)

/-- The nodes of the expression, each after those below it, those on the left first. -/
def Expr.nodes : Expr → List Node
  | number value => [.number value]
  | var name => [.var name]
  | call function argument => argument.nodes ++ [.call function]
  | binary op left right => left.nodes ++ right.nodes ++ [.binary op]

/-! ## 2. The rules of the nodes -/

/-- Something that is checked, and the error if it fails. -/
structure Check where
  fails : Bool
  error : EvalError

/-- What is checked, in order, before there is a value, and the value. -/
structure Rule where
  checks : List Check
  value : Float

/-- The checks of every value. -/
def Limits.checks (limits : Limits) (value : Float) : List Check :=
  [⟨!value.isFinite, .notFinite⟩, ⟨value.abs > limits.maxMagnitude, .outOfRange⟩]

/-- The value, if neither the rule's checks nor those of the value fail; the error of the first that
fails otherwise. -/
def Rule.result (limits : Limits) (rule : Rule) : Except EvalError Float :=
  match (rule.checks ++ limits.checks rule.value).find? (·.fails) with
  | some check => .error check.error
  | none => .ok rule.value

/-- The rule of a logarithm. -/
def Logarithm.rule (function : Logarithm) (argument : Float) : Rule where
  checks := [⟨argument ≤ 0, .logarithmDomain argument⟩]
  value :=
    match function with
    | natural => argument.log
    | common => argument.log10

/-- The rule of an operator. -/
def Operator.rule (limits : Limits) (op : Operator) (left right : Float) : Rule :=
  match op with
  | add => ⟨[], left + right⟩
  | subtract => ⟨[], left - right⟩
  | multiply => ⟨[], left * right⟩
  | divide => ⟨[⟨right == 0, .divisionByZero⟩], left / right⟩
  | power =>
    ⟨[⟨right > limits.maxExponent, .exponentTooLarge⟩,
      ⟨left.abs > limits.maxPowerBase && right > 2, .baseTooLarge⟩], left.pow right⟩

/-- The rule of the node for the operands on the stack, the last of which is on top, and the stack
without them. There is none if operands are missing. -/
def Node.take? (limits : Limits) (env : Environment) :
    Node → List Float → Option (Rule × List Float)
  | number value, stack => some (⟨[], value⟩, stack)
  | var name, stack => some (⟨[], env.get name⟩, stack)
  | call function, argument :: stack => some (function.rule argument, stack)
  | binary op, right :: left :: stack => some (op.rule limits left right, stack)
  | _, _ => none

/-! ## 3. The machine -/

/-- Where the machine stands. -/
inductive Machine
  | running (stack : List Float)
  | failed (error : EvalError)
  /-- A node has not found its operands. -/
  | stuck
deriving DecidableEq

namespace Machine

/-- The machine goes on with the stack, unless it has come to an end. -/
def andThen (machine : Machine) (next : List Float → Machine) : Machine :=
  match machine with
  | running stack => next stack
  | failed error => failed error
  | stuck => stuck

/-- The machine with a result on top of the stack. -/
def push (stack : List Float) : Except EvalError Float → Machine
  | .ok value => running (value :: stack)
  | .error error => failed error

/-- The machine after a visit to the node. -/
def visit (limits : Limits) (env : Environment) (node : Node) (stack : List Float) : Machine :=
  match node.take? limits env stack with
  | some (rule, stack) => push stack (rule.result limits)
  | none => stuck

/-- The machine after visits to the nodes, one after the other. -/
def run (limits : Limits) (env : Environment) : List Node → List Float → Machine
  | [], stack => running stack
  | node :: nodes, stack => (visit limits env node stack).andThen (run limits env nodes)

end Machine

/-! ## 4. Rules and operations -/

variable {limits : Limits} {env : Environment}

theorem result_nil (value : Float) : (⟨[], value⟩ : Rule).result limits = limits.check value := by
  unfold Rule.result Limits.check
  cases hfinite : value.isFinite
  · simp [Limits.checks, hfinite]
  · by_cases hrange : value.abs > limits.maxMagnitude <;> simp [Limits.checks, hfinite, hrange]

/-- The first check that fails decides. -/
theorem result_cons (check : Check) (checks : List Check) (value : Float) :
    (⟨check :: checks, value⟩ : Rule).result limits =
      if check.fails then .error check.error else (⟨checks, value⟩ : Rule).result limits := by
  unfold Rule.result
  rw [List.cons_append, List.find?_cons]
  cases check.fails <;> rfl

theorem result_logarithm (function : Logarithm) (argument : Float) :
    (function.rule argument).result limits = function.apply argument >>= limits.check := by
  unfold Logarithm.rule Logarithm.apply
  rw [result_cons, result_nil]
  by_cases hdomain : argument ≤ 0
  · rw [if_pos hdomain, if_pos (decide_eq_true hdomain)]
    rfl
  · rw [if_neg hdomain, if_neg (by simpa using hdomain)]
    cases function <;> rfl

theorem result_operator (op : Operator) (left right : Float) :
    (op.rule limits left right).result limits = op.apply limits left right >>= limits.check := by
  cases op with
  | divide =>
    rw [Operator.rule, result_cons, result_nil, Operator.apply]
    split <;> rfl
  | power =>
    rw [Operator.rule, result_cons, result_cons, result_nil, Operator.apply]
    by_cases hexponent : right > limits.maxExponent
    · rw [if_pos hexponent, if_pos (decide_eq_true hexponent)]
      rfl
    · rw [if_neg hexponent, if_neg (by simpa using hexponent)]
      split <;> rfl
  | _ => exact result_nil _

/-! ## 5. Runs -/

namespace Machine

variable {nodes : List Node} {stack : List Float} {error : EvalError}

theorem run_singleton (node : Node) (stack : List Float) :
    run limits env [node] stack = visit limits env node stack := by
  rw [run]
  cases visit limits env node stack <;> rfl

theorem run_append (nodes nodes' : List Node) (stack : List Float) :
    run limits env (nodes ++ nodes') stack =
      (run limits env nodes stack).andThen (run limits env nodes') := by
  induction nodes generalizing stack with
  | nil => rfl
  | cons node nodes ih =>
    rw [List.cons_append, run, run]
    cases visit limits env node stack with
    | running stack => exact ih stack
    | failed error => rfl
    | stuck => rfl

/-- The nodes of an expression put its value on the stack, whatever is there, or fail with its
error. -/
theorem run_nodes (e : Expr) (stack : List Float) :
    run limits env e.nodes stack = push stack (e.evaluate limits env) := by
  induction e generalizing stack with
  | number value =>
    rw [Expr.nodes, run_singleton]
    exact congrArg (push stack) (result_nil value)
  | var name =>
    rw [Expr.nodes, run_singleton]
    exact congrArg (push stack) (result_nil (env.get name))
  | call function argument ih =>
    rw [Expr.nodes, run_append, ih, Expr.evaluate]
    cases argument.evaluate limits env with
    | error error => rfl
    | ok value =>
      exact (run_singleton _ _).trans (congrArg (push stack) (result_logarithm function value))
  | binary op left right ihl ihr =>
    rw [Expr.nodes, run_append, run_append, ihl, Expr.evaluate]
    cases left.evaluate limits env with
    | error error => rfl
    | ok l =>
      show ((run limits env right.nodes (l :: stack)).andThen _) = _
      rw [ihr]
      cases right.evaluate limits env with
      | error error => rfl
      | ok r =>
        exact (run_singleton _ _).trans (congrArg (push stack) (result_operator op l r))

/-- The machine fails where a node fails and those before it do not. -/
theorem run_eq_failed_iff :
    run limits env nodes stack = failed error ↔
      ∃ before node after stack', nodes = before ++ node :: after ∧
        run limits env before stack = running stack' ∧
        visit limits env node stack' = failed error := by
  constructor
  · intro h
    induction nodes generalizing stack with
    | nil => cases h
    | cons node nodes ih =>
      rw [run] at h
      cases hvisit : visit limits env node stack with
      | running stack' =>
        rw [hvisit] at h
        obtain ⟨before, node', after, stack'', rfl, hrun, hfails⟩ := ih h
        refine ⟨node :: before, node', after, stack'', rfl, ?_, hfails⟩
        rw [run, hvisit]
        exact hrun
      | failed error' =>
        rw [hvisit] at h
        exact ⟨[], node, nodes, stack, rfl, rfl, hvisit.trans h⟩
      | stuck =>
        rw [hvisit] at h
        cases h
  · rintro ⟨before, node, after, stack', rfl, hrun, hfails⟩
    rw [run_append, hrun]
    show run limits env (node :: after) stack' = _
    rw [run, hfails]
    rfl

end Machine

open Machine

/-- Evaluation gives what the machine gives that visits the nodes of the expression, beginning with
an empty stack. If there is a value, it is what is on the stack in the end. There is an error if a
node fails with it and no node before does. -/
theorem evaluate_eq_run (limits : Limits) (env : Environment) (e : Expr) :
    (∀ v, e.evaluate limits env = .ok v ↔ run limits env e.nodes [] = .running [v]) ∧
    (∀ error, e.evaluate limits env = .error error ↔ run limits env e.nodes [] = .failed error) ∧
    ∀ error, e.evaluate limits env = .error error ↔
      ∃ before node after stack, e.nodes = before ++ node :: after ∧
        run limits env before [] = .running stack ∧
        visit limits env node stack = .failed error := by
  have hrun : run limits env e.nodes [] = push [] (e.evaluate limits env) := run_nodes e []
  have herror : ∀ error, e.evaluate limits env = .error error ↔
      run limits env e.nodes [] = .failed error := by
    intro error
    rw [hrun]
    cases e.evaluate limits env <;> simp [push]
  refine ⟨fun v => ?_, herror, fun error => (herror error).trans run_eq_failed_iff⟩
  rw [hrun]
  cases e.evaluate limits env <;> simp [push]

-- `1/0+ln(0)`: the logarithm is not visited
example :
    run {} .empty (Expr.binary .add (.binary .divide (.number 1) (.number 0))
      (.call .natural (.number 0))).nodes [] = .failed .divisionByZero := by
  decide +kernel

end Formulary

import Formulary.Expr.Parse
import Formulary.Proofs.Grammar

/-!
# The calls of the parser

The parser once more, as steps on counters: a position in the list of tokens and a depth, which goes
up where a group, an argument or the right operand of `^` begins and down where it ends. Nothing
here carries a proof. Procedures call one another without taking a token in between, and chains go
round as long as their operators follow, so a run is given bounds: a stack, which is how deep its
calls may nest, and rounds, which is how often a chain may go round. A run that needs more has no
answer.

A run keeps a record of its calls and of the depths from which it has come back up, and every
expression comes with the height that was counted for it.

* `Procedure`: what is called.
* `Run α`: steps on the counters that end with an error or with an `α`, if they end.
* `p.body call rounds`: what the procedure does, its calls being made by `call`.
* `p.call rounds stack`: a recorded call of the procedure.
* `countedParse stack rounds tokens`: the whole list of tokens.
-/

namespace Formulary

/-! ## 1. Counters -/

/-- The number of tokens that have been read, and of the groups, arguments and right operands of `^`
that are open. -/
structure Cursor where
  position : Nat
  depth : Nat

/-- An expression with the height that has been counted for it. -/
structure Measured where
  expr : Expr
  height : Nat

/-- What is called: sums, products, powers and factors. -/
inductive Procedure
  | chain (c : Chain)
  | power
  | factor

/-- A call that has ended. -/
structure Call where
  procedure : Procedure
  entry : Cursor
  answer : Except ParseError Measured
  exit : Cursor

/-- How far a run has come. -/
structure Progress extends Cursor where
  /-- The calls that have ended, the last one last. -/
  calls : List Call
  /-- The depths from which the run has come back up. -/
  leaves : List Nat

/-- Before the first step. -/
def Progress.start : Progress :=
  ⟨⟨0, 0⟩, [], []⟩

/-- Steps that end with an error or with an `α`, if they end. -/
abbrev Run := ExceptT ParseError (StateT Progress Option)

/-- The procedure of the operands. -/
def Chain.operandProcedure : Chain → Procedure
  | sum => .chain .product
  | product => .power

/-- The role of what the procedure reads. -/
def Procedure.role : Procedure → Role
  | chain c => .chain c
  | power => .power
  | factor => .factor

namespace Run

variable (tokens : List Token)

/-! ## 2. Single steps -/

/-- A run that has used up its bounds. -/
def exhausted : Run Measured :=
  fun _ => none

/-- The next token, if there is one. -/
def nextToken? : Run (Option Token) := do
  return tokens[(← get).position]?

/-- Goes past the next token. -/
def consume : Run Unit :=
  modify fun s => { s with position := s.position + 1 }

/-- Goes past the next token if it is an accepted operator. -/
def takeOperator? (accepts : Operator → Bool) : Run (Option Operator) := do
  match ← nextToken? tokens with
  | some (.operator op) =>
    if accepts op then
      consume
      return some op
    else return none
  | _ => return none

/-- Goes past a closing parenthesis. -/
def takeClose (missing : ParseError) : Run Unit := do
  match ← nextToken? tokens with
  | some .closeParen => consume
  | _ => throw missing

/-- Goes one level down into the formula. -/
def enter : Run Unit := do
  modify fun s => { s with depth := s.depth + 1 }
  if maxDepth < (← get).depth then throw .tooDeep

/-- Comes back up. From depth zero there is nowhere to come up to. -/
def leave : Run Unit :=
  modify fun s => { s with depth := s.depth - 1, leaves := s.leaves ++ [s.depth] }

/-- The expression with its height, if that is not too much. -/
def measured (e : Expr) (height : Nat) : Run Measured := do
  if maxDepth < height then throw .tooDeep
  return ⟨e, height⟩

/-- Two operands joined, with the height counted from theirs. -/
def binary (op : Operator) (left right : Measured) : Run Measured :=
  measured (.binary op left.expr right.expr) (1 + max left.height right.height)

/-- What `x` reads, one level further down in the formula. -/
def inside (x : Run Measured) : Run Measured := do
  enter
  let inner ← x
  leave
  return inner

/-- What `x` does, recorded as a call of the procedure when it ends. -/
def recorded (p : Procedure) (x : Run Measured) : Run Measured := fun s => do
  let (answer, s') ← x.run.run s
  return (answer, { s' with calls := s'.calls ++ [⟨p, s.toCursor, answer, s'.toCursor⟩] })

/-! ## 3. The procedures -/

/-- The rounds of a chain: as long as one of its operators follows, another operand is read. -/
def loop (c : Chain) (operand : Run Measured) : (rounds : Nat) → (left : Measured) → Run Measured
  | 0, _ => exhausted
  | rounds + 1, left => do
    match ← takeOperator? tokens c.joins with
    | some op =>
      let right ← operand
      let next ← binary op left right
      loop c operand rounds next
    | none => return left

end Run

open Run

variable (tokens : List Token)

/-- What the procedure does, its calls being made by `call`. -/
def Procedure.body (call : Procedure → Run Measured) (rounds : Nat) : Procedure → Run Measured
  | chain c => do
    let first ← call c.operandProcedure
    loop tokens c (call c.operandProcedure) rounds first
  | power => do
    let base ← call factor
    match ← takeOperator? tokens (· == .power) with
    | some _ =>
      let exponent ← inside (call power)
      binary .power base exponent
    | none => return base
  | factor => do
    match ← nextToken? tokens with
    | none => throw .unexpectedEnd
    | some .openParen =>
      consume
      let inner ← inside (call (chain .sum))
      takeClose tokens .missingCloseParen
      return inner
    | some (.logarithm f) =>
      consume
      match ← nextToken? tokens with
      | some .openParen =>
        consume
        let argument ← inside (call (chain .sum))
        takeClose tokens (.missingArgumentClose f)
        measured (.call f argument.expr) (argument.height + 1)
      | _ => throw (.missingOpenParen f)
    | some (.literal text) =>
      let value ← MonadExcept.ofExcept (literalValue text)
      consume
      return ⟨.number value, 1⟩
    | some (.letter name) =>
      consume
      return ⟨.var name, 1⟩
    | some token => throw (.unexpectedToken token)

/-- A call of the procedure; each call takes its place on the stack. -/
def Procedure.call (rounds : Nat) : (stack : Nat) → Procedure → Run Measured
  | 0, _ => exhausted
  | stack + 1, p => recorded p (p.body tokens (call rounds stack) rounds)

/-- The expression that all the tokens denote. -/
def countedParse (stack rounds : Nat) : Run Expr := do
  let sum ← (Procedure.chain .sum).call tokens rounds stack
  match ← nextToken? tokens with
  | some token => throw (.trailingToken token)
  | none => return sum.expr

end Formulary

import Formulary.Expr.Parse
import Formulary.Proofs.Grammar

/-!
# What the parser reads in each role

The parsers carry proofs that the tokens they leave are fewer. Here they are seen without these
proofs, as functions from tokens to an expression and the tokens after it, one for each role of the
grammar. Each function has its equations, and nothing else about the parsers is used elsewhere.

* `role.read levels tokens`: what is read in the role, with `levels` levels of nesting left.
* `role.readInner levels tokens`: the same one level further in, which takes one of the levels.
* `closeAfter missing r`: `r` without the closing parenthesis after the expression.
-/

namespace Formulary

/-! ## 1. Reading in a role -/

/-- What the parser reads: an expression and the tokens after it. -/
def Parser.read (p : Parser) (tokens : List Token) : Except ParseError (Expr × List Token) :=
  (p tokens).map fun r => (r.expr, r.rest)

/-- The parser of the operands. -/
def Chain.operandParser (levels : Nat) : Chain → Parser
  | sum => Parser.leftChain Operator.joinsPowers (Parser.powerAt (levels + 1))
  | product => Parser.powerAt (levels + 1)

/-- What is read in the role, with so many levels of nesting left. -/
def Role.read (levels : Nat) : Role → List Token → Except ParseError (Expr × List Token)
  | chain c => (Parser.leftChain c.joins (c.operandParser levels)).read
  | tail c left => fun tokens =>
    (Parser.chainTail c.joins (c.operandParser levels) left tokens).map Subtype.val
  | power => (Parser.powerAt (levels + 1)).read
  | factor => (Parser.factor (Parser.sumAt levels)).read

/-- What is read in the role one level further in. -/
def Role.readInner (role : Role) :
    (levels : Nat) → List Token → Except ParseError (Expr × List Token)
  | 0, _ => .error .tooDeep
  | levels + 1, tokens => role.read levels tokens

/-- Takes a closing parenthesis off the tokens after an expression. -/
def closeAfter (missing : ParseError) : Expr × List Token → Except ParseError (Expr × List Token)
  | (e, .closeParen :: rest) => .ok (e, rest)
  | _ => .error missing

namespace ReadingLemmas

/-! ## 2. Sums and products -/

theorem joins_sum : Chain.sum.joins = Operator.joinsProducts := by
  funext op
  cases op <;> rfl

theorem joins_product : Chain.product.joins = Operator.joinsPowers := by
  funext op
  cases op <;> rfl

variable (levels : Nat)

theorem read_operandParser (c : Chain) :
    (c.operandParser levels).read = c.operand.read levels := by
  cases c with
  | sum =>
    show _ = (Parser.leftChain Chain.product.joins _).read
    rw [joins_product]
    rfl
  | product => rfl

theorem read_sumAt : (Parser.sumAt (levels + 1)).read = (Role.chain .sum).read levels := by
  funext tokens
  show (Parser.sumAt (levels + 1) tokens).map _ = (Parser.leftChain Chain.sum.joins _ tokens).map _
  rw [joins_sum, Parser.sumAt]
  rfl

theorem readInner_sum (tokens : List Token) :
    (Parser.sumAt levels).read tokens = (Role.chain .sum).readInner levels tokens := by
  cases levels with
  | zero => rfl
  | succ levels =>
    rw [read_sumAt]
    rfl

theorem readInner_power (tokens : List Token) :
    (Parser.powerAt levels).read tokens = Role.power.readInner levels tokens := by
  cases levels <;> rfl

variable (c : Chain)

theorem read_chain (tokens : List Token) :
    (Role.chain c).read levels tokens =
      c.operand.read levels tokens >>= fun r => (Role.tail c r.1).read levels r.2 := by
  rw [← read_operandParser]
  show Except.map _ (Parser.leftChain _ _ _) = _
  rw [Parser.leftChain, Parser.read]
  -- without their proofs, both sides take the same branches
  cases c.operandParser levels tokens with
  | error => rfl
  | ok p =>
    show Except.map _ (Parser.chainTail _ _ p.expr p.rest >>= _) =
      Except.map _ (Parser.chainTail c.joins (c.operandParser levels) p.expr p.rest)
    cases Parser.chainTail c.joins (c.operandParser levels) p.expr p.rest <;> rfl

theorem read_join {op : Operator} (h : c.joins op = true) (left : Expr) (tokens : List Token) :
    (Role.tail c left).read levels (.operator op :: tokens) =
      c.operand.read levels tokens >>= fun r =>
        checkHeight (.binary op left r.1) >>= fun e => (Role.tail c e).read levels r.2 := by
  rw [← read_operandParser]
  show Except.map _ (Parser.chainTail _ _ _ _) = _
  rw [Parser.chainTail, if_pos h, Parser.read]
  cases c.operandParser levels tokens with
  | error => rfl
  | ok p =>
    show Except.map _ (checkHeight (.binary op left p.expr) >>= _) =
      checkHeight (.binary op left p.expr) >>= _
    cases checkHeight (.binary op left p.expr) with
    | error => rfl
    | ok e =>
      show Except.map _ (Parser.chainTail _ _ e p.rest >>= _) =
        Except.map _ (Parser.chainTail c.joins (c.operandParser levels) e p.rest)
      cases Parser.chainTail c.joins (c.operandParser levels) e p.rest <;> rfl

theorem read_done {tokens : List Token} (left : Expr)
    (h : ∀ op, tokens.head? = some (.operator op) → c.joins op = false) :
    (Role.tail c left).read levels tokens = .ok (left, tokens) := by
  show Except.map _ (Parser.chainTail _ _ _ _) = _
  rw [Parser.chainTail.eq_def]
  split
  · next op rest =>
    rw [h op rfl]
    rfl
  · rfl

/-! ## 3. Powers -/

theorem read_power (tokens : List Token) :
    Role.power.read levels tokens = Role.factor.read levels tokens >>= fun r =>
      match r.2 with
      | .operator .power :: rest =>
        Role.power.readInner levels rest >>= fun x =>
          checkHeight (.binary .power r.1 x.1) >>= fun e => .ok (e, x.2)
      | _ => .ok r := by
  show Except.map _ (Parser.powerAt _ _) = Except.map _ _ >>= _
  rw [Parser.powerAt, Parser.power]
  cases Parser.factor (Parser.sumAt levels) tokens with
  | error => rfl
  | ok base =>
    obtain ⟨e, rest, hlt⟩ := base
    cases rest with
    | nil => rfl
    | cons t rest =>
      cases t with
      | operator op =>
        cases op with
        | power =>
          show Except.map _ (Parser.powerAt levels rest >>= _) =
            Role.power.readInner levels rest >>= _
          rw [← readInner_power, Parser.read]
          cases Parser.powerAt levels rest with
          | error => rfl
          | ok x =>
            show Except.map _ (checkHeight (.binary .power e x.expr) >>= _) =
              checkHeight (.binary .power e x.expr) >>= _
            cases checkHeight (.binary .power e x.expr) <;> rfl
        | _ => rfl
      | _ => rfl

/-! ## 4. Factors -/

theorem read_group (tokens : List Token) :
    Role.factor.read levels (.openParen :: tokens) =
      (Role.chain .sum).readInner levels tokens >>= closeAfter .missingCloseParen := by
  rw [← readInner_sum, Parser.read]
  show Except.map _ (Parser.sumAt levels tokens >>= _) = _
  cases Parser.sumAt levels tokens with
  | error => rfl
  | ok inner =>
    obtain ⟨e, rest, hlt⟩ := inner
    cases rest with
    | nil => rfl
    | cons t rest => cases t <;> rfl

theorem read_call (f : Logarithm) (tokens : List Token) :
    Role.factor.read levels (.logarithm f :: .openParen :: tokens) =
      (Role.chain .sum).readInner levels tokens >>= fun r =>
        closeAfter (.missingArgumentClose f) r >>= fun r =>
          checkHeight (.call f r.1) >>= fun e => .ok (e, r.2) := by
  rw [← readInner_sum, Parser.read]
  show Except.map _ (Parser.sumAt levels tokens >>= _) = _
  cases Parser.sumAt levels tokens with
  | error => rfl
  | ok inner =>
    obtain ⟨e, rest, hlt⟩ := inner
    cases rest with
    | nil => rfl
    | cons t rest =>
      cases t with
      | closeParen =>
        show Except.map _ (checkHeight (.call f e) >>= _) = checkHeight (.call f e) >>= _
        cases checkHeight (.call f e) <;> rfl
      | _ => rfl

theorem read_name (f : Logarithm) {tokens : List Token} (h : tokens.head? ≠ some .openParen) :
    Role.factor.read levels (.logarithm f :: tokens) = .error (.missingOpenParen f) := by
  cases tokens with
  | nil => rfl
  | cons t tokens =>
    cases t with
    | openParen => exact absurd rfl h
    | _ => rfl

theorem read_literal (text : String) (tokens : List Token) :
    Role.factor.read levels (.literal text :: tokens) =
      literalValue text >>= fun x => .ok (.number x, tokens) := by
  show Except.map _ (literalValue text >>= _) = _
  cases literalValue text <;> rfl

theorem read_letter (name : Char) (tokens : List Token) :
    Role.factor.read levels (.letter name :: tokens) = .ok (.var name, tokens) :=
  rfl

theorem read_nil : Role.factor.read levels [] = .error .unexpectedEnd :=
  rfl

theorem read_operator (op : Operator) (tokens : List Token) :
    Role.factor.read levels (.operator op :: tokens) = .error (.unexpectedToken (.operator op)) :=
  rfl

theorem read_closeParen (tokens : List Token) :
    Role.factor.read levels (.closeParen :: tokens) = .error (.unexpectedToken .closeParen) :=
  rfl

/-! ## 5. Whole formulas -/

theorem parse_eq (tokens : List Token) :
    parse tokens = (Role.chain .sum).read maxDepth tokens >>= fun r =>
      match r.2 with
      | [] => .ok r.1
      | t :: _ => .error (.trailingToken t) := by
  rw [← read_sumAt, parse, Parser.read]
  cases Parser.sumAt (maxDepth + 1) tokens with
  | error => rfl
  | ok p =>
    obtain ⟨e, rest, hlt⟩ := p
    cases rest <;> rfl

end ReadingLemmas

end Formulary

import Formulary.Expr
import Formulary.Number.Numeral
import Formulary.Token.Scan

/-!
# The expression of a list of tokens

The grammar, from loosest to tightest binding:

* a sum is products joined by `+` and `-`, grouped from the left;
* a product is powers joined by `*` and `/`, grouped from the left;
* a power is a factor, or a factor `^` a power, so `^` groups from the right;
* a factor is a literal that is a number, a letter, a sum in parentheses, or the name of a logarithm
  and a sum in parentheses.

Two bounds, both `maxDepth`, keep expressions small enough to walk. At most `maxDepth` parentheses,
arguments and right operands of `^` may be open at once, and no expression may be higher than
`maxDepth`.

A `Parser` answers with an expression and the tokens after it, which are always fewer than the
tokens before it; repetition ends because of that. The parsers of one level of nesting are put
together from those of the next level, so the bound on nesting is the number of levels.

* `Parser.leftChain accepts operand`: operands joined by accepted operators, grouped from the left.
* `Parser.factor sum`, `Parser.power sum exponent`: a factor or a power whose inner parts are read
  by the parsers given.
* `Parser.sumAt levels`, `Parser.powerAt levels`: a sum or a power with so many levels of nesting
  left.
* `parse tokens`: the expression that all the tokens denote.
* `parseFormula formula`: the expression of a text.
-/

namespace Formulary

/-! ## 1. Errors -/

/-- Why a list of tokens is no expression. -/
inductive ParseError
  /-- The name of a logarithm without a parenthesis after it. -/
  | missingOpenParen (function : Logarithm)
  /-- The argument of a logarithm is not closed. -/
  | missingArgumentClose (function : Logarithm)
  /-- A sum in parentheses is not closed. -/
  | missingCloseParen
  /-- A literal that is no number. -/
  | invalidLiteral (text : String)
  /-- A token where an operand is needed. -/
  | unexpectedToken (token : Token)
  /-- No token where an operand is needed. -/
  | unexpectedEnd
  /-- A token after the whole expression. -/
  | trailingToken (token : Token)
  /-- A number beyond the largest double. -/
  | numberTooLarge (text : String)
  /-- One of the two bounds is exceeded. -/
  | tooDeep
deriving DecidableEq, Repr

/-- The text that reports the error. -/
def ParseError.message : ParseError → String
  | missingOpenParen function => "Missing opening parenthesis after " ++ function.text
  | missingArgumentClose function =>
    "Missing closing parenthesis after " ++ function.text ++ " argument"
  | missingCloseParen => "Missing closing parenthesis"
  | invalidLiteral text => "Invalid token '" ++ text ++ "'"
  | unexpectedToken token => "Unexpected token '" ++ token.text ++ "'"
  | unexpectedEnd => "Unexpected end of formula"
  | trailingToken token => "Unexpected token '" ++ token.text ++ "' after expression"
  | numberTooLarge text => "Number too large: '" ++ text ++ "'"
  | tooDeep => "Formula is nested too deeply"

/-! ## 2. Parsers -/

/-- The bound on nesting and on the height of an expression. -/
def maxDepth : Nat := 256

/-- An expression at the start of `tokens` and the tokens after it. -/
structure Parsed (tokens : List Token) where
  expr : Expr
  rest : List Token
  rest_lt : rest.length < tokens.length

/-- Reads an expression at the start of a list of tokens. -/
abbrev Parser := (tokens : List Token) → Except ParseError (Parsed tokens)

/-- The same result, seen from a longer list. -/
def Parsed.weaken {short long : List Token} (p : Parsed short) (h : short.length ≤ long.length) :
    Parsed long :=
  ⟨p.expr, p.rest, Nat.lt_of_lt_of_le p.rest_lt h⟩

/-- The expression, if it is not too high. -/
def checkHeight (e : Expr) : Except ParseError Expr :=
  if e.height ≤ maxDepth then .ok e else .error .tooDeep

/-- The number that a literal is. -/
def literalValue (text : String) : Except ParseError Float :=
  match Number.numeral? text.toList with
  | none => .error (.invalidLiteral text)
  | some d =>
    match d.finite? false with
    | none => .error (.numberTooLarge text)
    | some x => .ok x

/-- Takes a closing parenthesis off the tokens after an expression. -/
def Parsed.close {tokens : List Token} (p : Parsed tokens) (missing : ParseError) :
    Except ParseError (Parsed tokens) :=
  match h : p.rest with
  | .closeParen :: rest =>
    .ok ⟨p.expr, rest, by have := p.rest_lt; simp only [h, List.length_cons] at this; omega⟩
  | _ => .error missing

/-- The operators that join the products of a sum. -/
def Operator.joinsProducts : Operator → Bool
  | add | subtract => true
  | _ => false

/-- The operators that join the powers of a product. -/
def Operator.joinsPowers : Operator → Bool
  | multiply | divide => true
  | _ => false

namespace Parser

/-! ## 3. Chains of operators -/

/-- Further accepted operators and their right operands after the operand `left`. -/
def chainTail (accepts : Operator → Bool) (operand : Parser) (left : Expr) (tokens : List Token) :
    Except ParseError { r : Expr × List Token // r.2.length ≤ tokens.length } :=
  match tokens with
  | .operator op :: rest =>
    if accepts op then do
      let right ← operand rest
      let expr ← checkHeight (.binary op left right.expr)
      let ⟨r, hr⟩ ← chainTail accepts operand expr right.rest
      return ⟨r, by have := right.rest_lt; simp only [List.length_cons]; omega⟩
    else return ⟨(left, .operator op :: rest), Nat.le_refl _⟩
  | tokens => return ⟨(left, tokens), Nat.le_refl _⟩
termination_by tokens.length
decreasing_by
  have := right.rest_lt
  simp only [List.length_cons]
  omega

/-- Operands joined by accepted operators, grouped from the left. -/
def leftChain (accepts : Operator → Bool) (operand : Parser) : Parser := fun tokens => do
  let first ← operand tokens
  let ⟨r, hr⟩ ← chainTail accepts operand first.expr first.rest
  return ⟨r.1, r.2, Nat.lt_of_le_of_lt hr first.rest_lt⟩

/-! ## 4. Factors and powers -/

/-- A factor; `sum` reads what is inside parentheses. -/
def factor (sum : Parser) : Parser
  | [] => .error .unexpectedEnd
  | .openParen :: rest => do
    let inner ← sum rest
    (inner.weaken (Nat.le_succ _)).close .missingCloseParen
  | .logarithm function :: .openParen :: rest => do
    let argument ← sum rest
    let closed ← (argument.weaken (Nat.le_add_right _ 2)).close (.missingArgumentClose function)
    let expr ← checkHeight (.call function closed.expr)
    return ⟨expr, closed.rest, closed.rest_lt⟩
  | .logarithm function :: _ => .error (.missingOpenParen function)
  | .literal text :: rest => do
    let value ← literalValue text
    return ⟨.number value, rest, Nat.lt_succ_self _⟩
  | .letter name :: rest => .ok ⟨.var name, rest, Nat.lt_succ_self _⟩
  | .operator op :: _ => .error (.unexpectedToken (.operator op))
  | .closeParen :: _ => .error (.unexpectedToken .closeParen)

/-- A power; `exponent` reads the right operand of `^`. -/
def power (sum exponent : Parser) : Parser := fun tokens => do
  let base ← factor sum tokens
  match h : base.rest with
  | .operator .power :: rest =>
    let right ← exponent rest
    let expr ← checkHeight (.binary .power base.expr right.expr)
    return ⟨expr, right.rest, by
      have h1 := right.rest_lt
      have h2 := base.rest_lt
      simp only [h, List.length_cons] at h2
      omega⟩
  | _ => return base

/-! ## 5. Levels of nesting -/

mutual

/-- Reads a sum with `levels` levels of nesting left, its own included. -/
def sumAt : (levels : Nat) → Parser
  | 0, _ => .error .tooDeep
  | levels + 1, tokens =>
    leftChain Operator.joinsProducts
      (leftChain Operator.joinsPowers (power (sumAt levels) (powerAt levels))) tokens

/-- Reads a power with `levels` levels of nesting left, its own included. -/
def powerAt : (levels : Nat) → Parser
  | 0, _ => .error .tooDeep
  | levels + 1, tokens => power (sumAt levels) (powerAt levels) tokens

end

end Parser

/-! ## 6. Whole formulas -/

/-- The expression that all the tokens denote. -/
def parse (tokens : List Token) : Except ParseError Expr := do
  let p ← Parser.sumAt (maxDepth + 1) tokens
  match p.rest with
  | [] => return p.expr
  | token :: _ => throw (.trailingToken token)

/-- The expression of a formula's text. -/
def parseFormula (formula : String) : Except ParseError Expr :=
  parse (tokenize formula)

end Formulary

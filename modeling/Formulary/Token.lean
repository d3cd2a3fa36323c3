/-!
# Tokens

A formula is a list of tokens: literals, letters, the names of the two logarithms, operators and
parentheses.

* `Token.text t`: the text that `t` has in a formula.
* `Logarithm.tag`, `Operator.tag`: their names outside of formulas.
* `Operator.ofChar? c`: the operator that `c` writes.
* `Token.ofSymbol? c`: the operator or parenthesis that `c` writes.
* `Token.ofRun run`: the token of a run of other characters.
* `Logarithm.leading? s`: the logarithm whose name the text begins with.
-/

namespace Formulary

/-! ## 1. Kinds of tokens -/

/-- The two logarithms of a formula: `ln` and, to the base ten, `log`. -/
inductive Logarithm
  | natural
  | common
deriving DecidableEq, Repr

/-- The five operators of a formula. -/
inductive Operator
  | add
  | subtract
  | multiply
  | divide
  | power
deriving DecidableEq, Repr

/-- What a formula is made of. A literal is any text that is no single letter; whether it is a
number shows when the formula is parsed. -/
inductive Token
  | literal (text : String)
  | letter (name : Char)
  | logarithm (name : Logarithm)
  | operator (op : Operator)
  | openParen
  | closeParen
deriving DecidableEq, Repr

/-! ## 2. The text of a token -/

/-- The name of the logarithm in a formula. -/
def Logarithm.text : Logarithm → String
  | natural => "ln"
  | common => "log"

/-- The character of the operator in a formula. -/
def Operator.char : Operator → Char
  | add => '+'
  | subtract => '-'
  | multiply => '*'
  | divide => '/'
  | power => '^'

/-- The name of the logarithm in data and listings. -/
def Logarithm.tag : Logarithm → String
  | natural => "Ln"
  | common => "Log"

/-- The name of the operator in data and listings. -/
def Operator.tag : Operator → String
  | add => "Add"
  | subtract => "Subtract"
  | multiply => "Multiply"
  | divide => "Divide"
  | power => "Power"

/-- The text of the token in a formula. -/
def Token.text : Token → String
  | literal text => text
  | letter name => String.singleton name
  | logarithm name => name.text
  | operator op => String.singleton op.char
  | openParen => "("
  | closeParen => ")"

/-! ## 3. The token of a text -/

/-- The operator that the character writes. -/
def Operator.ofChar? : Char → Option Operator
  | '+' => some add
  | '-' => some subtract
  | '*' => some multiply
  | '/' => some divide
  | '^' => some power
  | _ => none

theorem Operator.ofChar?_char (op : Operator) : ofChar? op.char = some op := by
  cases op <;> rfl

/-- The operator or parenthesis that the character writes. -/
def Token.ofSymbol? : Char → Option Token
  | '(' => some openParen
  | ')' => some closeParen
  | c => (Operator.ofChar? c).map operator

/-- The token of a run of characters that are no symbols: one ASCII letter is a letter, any other
run a literal. -/
def Token.ofRun : List Char → Token
  | [c] => if c.isAlpha then letter c else literal (String.singleton c)
  | run => literal (String.ofList run)

theorem Token.toList_text_ofRun (run : List Char) : (ofRun run).text.toList = run := by
  unfold ofRun
  split
  · split <;> simp [text]
  · simp [text]

/-- The logarithm whose name the text begins with. -/
def Logarithm.leading? : List Char → Option Logarithm
  | 'l' :: 'o' :: 'g' :: _ => some common
  | 'l' :: 'n' :: _ => some natural
  | _ => none

theorem Logarithm.leading?_text (f : Logarithm) (rest : List Char) :
    leading? (f.text.toList ++ rest) = some f := by
  cases f <;> rfl

end Formulary

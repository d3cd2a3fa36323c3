import Formulary.Expr.Parse
import Formulary.Number.Plain

/-!
# Expressions as markup

`e.markup` is the expression in the markup of mathematical typesetting, without the marks of a
formula around it. It depends on the tree alone, never on the values of variables.

Sums, differences and products are written in line. A quotient is a fraction and an exponent a group
in braces, which need no parentheses. Only the left operand of `^` gets parentheses, when it is an
operator.

* `e.markup`: the markup, as characters.
* `render e`: the markup, as a string.
* `renderFormula formula`: the markup of a text, or the text itself if it is no formula.
-/

namespace Formulary

/-- What opens the argument of the logarithm. -/
def Logarithm.markup : Logarithm → List Char
  | natural => "\\ln(".toList
  | common => "\\log_\x7b10\x7d(".toList

/-- The expression in the markup of mathematical typesetting. -/
def Expr.markup : Expr → List Char
  | number value => Number.plain value
  | var name => [name]
  | call function argument => function.markup ++ argument.markup ++ [')']
  | binary .add left right => left.markup ++ " + ".toList ++ right.markup
  | binary .subtract left right => left.markup ++ " - ".toList ++ right.markup
  | binary .multiply left right => left.markup ++ " \\cdot ".toList ++ right.markup
  | binary .divide left right =>
    "\\frac\x7b".toList ++ left.markup ++ "\x7d\x7b".toList ++ right.markup ++ "\x7d".toList
  | binary .power left right =>
    (if left.isBinary then "\\left(".toList ++ left.markup ++ "\\right)".toList else left.markup) ++
      "^\x7b".toList ++ right.markup ++ "\x7d".toList

/-- The markup of an expression. -/
def render (e : Expr) : String :=
  String.ofList e.markup

/-- The markup of a formula's text, or the text itself if it is no formula. -/
def renderFormula (formula : String) : String :=
  match parseFormula formula with
  | .ok e => render e
  | .error _ => formula

example : render (.binary .power (.binary .add (.var 'a') (.var 'b')) (.var 'c')) =
    "\\left(a + b\\right)^\x7bc\x7d" := by decide

end Formulary

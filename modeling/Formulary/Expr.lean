import Formulary.Token

/-!
# Expressions

The tree that a formula denotes. It is built once from the tokens; evaluation and markup read it.

* `Expr`: numbers, variables, logarithms of an argument, and operators between two operands.
* `e.height`: the number of nodes on the longest path from the root.
* `e.isBinary`: the root is an operator.
-/

namespace Formulary

/-- An expression. -/
inductive Expr
  | number (value : Float)
  | var (name : Char)
  | call (function : Logarithm) (argument : Expr)
  | binary (op : Operator) (left right : Expr)
deriving DecidableEq

namespace Expr

/-- The number of nodes on the longest path from the root. -/
def height : Expr → Nat
  | number _ => 1
  | var _ => 1
  | call _ argument => argument.height + 1
  | binary _ left right => max left.height right.height + 1

/-- The root is an operator between two operands. -/
def isBinary : Expr → Bool
  | binary .. => true
  | _ => false

theorem height_pos (e : Expr) : 0 < e.height := by
  cases e <;> simp [height]

end Expr

end Formulary

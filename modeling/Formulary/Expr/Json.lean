import Formulary.Expr
import Formulary.Number.Compact
import Formulary.Text.Json

/-!
# Expressions as data

`e.json` is the expression as a value of JSON without blanks. Each node is an object with one field,
named for the kind of the node.
-/

namespace Formulary

open Text (jsonObject jsonString)

/-- The expression as a value of JSON. -/
def Expr.json : Expr → List Char
  | number value => jsonObject [("Number", Number.compact value)]
  | var name => jsonObject [("Variable", jsonString [name])]
  | call function argument =>
    jsonObject [("Function", jsonObject
      [("name", jsonString function.tag.toList), ("argument", argument.json)])]
  | binary op left right =>
    jsonObject [("BinaryOp", jsonObject
      [("op", jsonString op.tag.toList), ("left", left.json), ("right", right.json)])]

end Formulary

import Formulary.Number.Shortest

/-!
# A double in plain digits

`plain x` writes the double `x` with the fewest digits that read back, never with an exponent and
with a point only before a fraction. A tie between two shortest decimals goes up. The zero below
zero is `-0`, and what is no finite number is `NaN`, `inf` or `-inf`.
-/

namespace Formulary.Number

/-- The mark of a negative number, the zero below zero included. -/
def minus (negative : Bool) : List Char :=
  if negative then ['-'] else []

/-- The double in plain digits. -/
def plain (x : Float) : List Char :=
  match parts x with
  | .nan => "NaN".toList
  | .infinite negative => minus negative ++ "inf".toList
  | .finite negative i => minus negative ++ (shortest .up i).positional

/-- The double in plain digits, as a string. -/
def plainText (x : Float) : String :=
  String.ofList (plain x)

end Formulary.Number

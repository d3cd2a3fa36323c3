import Formulary.Number.Plain

/-!
# A double in a data file

`compact x` writes a double with the fewest digits that read back, where a tie between two shortest
decimals goes to the even one. From `10 ^ -5` up to `10 ^ 16` the digits are positional and there is
always a point; otherwise there is a power of ten with its sign. What is no finite number is `null`.
-/

namespace Formulary.Number

/-- The digits with a point after the first, if there are more, and a power of ten. -/
def exponential (digits : List Char) (exponent : Int) : List Char :=
  digits.take 1 ++ (if digits.length ≤ 1 then [] else '.' :: digits.drop 1) ++
    'e' :: (if exponent < 0 then '-' else '+') :: Nat.toDigits 10 exponent.natAbs

/-- The decimal as it is written in a data file. -/
def Decimal.compact (d : Decimal) : List Char :=
  let digits := Nat.toDigits 10 d.coefficient
  let lead := d.exponent + (digits.length - 1 : Nat)
  if d.coefficient = 0 || (-5 ≤ lead && lead < 16) then
    d.positional ++ if 0 ≤ d.exponent then ".0".toList else []
  else exponential digits lead

/-- The double as it is written in a data file. -/
def compact (x : Float) : List Char :=
  match parts x with
  | .nan | .infinite _ => "null".toList
  | .finite negative i => minus negative ++ (shortest .even i).compact

example : (⟨42, 0⟩ : Decimal).compact = "42.0".toList := by decide

example : (⟨1, -5⟩ : Decimal).compact = "0.00001".toList := by decide

example : (⟨12, -7⟩ : Decimal).compact = "1.2e-6".toList := by decide

example : (⟨1, 16⟩ : Decimal).compact = "1e+16".toList := by decide

end Formulary.Number

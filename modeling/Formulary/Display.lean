import Formulary.Number.Plain

/-!
# Results as they are shown

A result is shown with six places after the point. From `0.000001` to `999999` in magnitude it is
written out, otherwise with a power of ten whose sign is always there. The exact value is rounded;
what lies halfway goes to the even digit.

* `fixed u`: `u` units to six places.
* `scientific u`: `u` units as one digit, six places and a power of ten.
* `display x`: a double as it is shown.
-/

namespace Formulary

open Number (parts minus order units unitsInOne roundDiv Decimal)

/-- The places after the point. -/
def displayPlaces : Nat := 6

/-- `u` units to six places. -/
def fixedDecimal (u : Nat) : Decimal :=
  ⟨roundDiv .even (u * 10 ^ displayPlaces) unitsInOne, -displayPlaces⟩

/-- The first seven digits of `u > 0` units, rounded, and the exponent of the first of them.
Rounding up may need an eighth digit, which is then a zero. -/
def leadingDigits (u : Nat) : Nat × Int :=
  let lead := order u - 1
  let last := lead - displayPlaces
  let m := roundDiv .even (u * 10 ^ (-last).toNat) (unitsInOne * 10 ^ last.toNat)
  if m < 10 ^ (displayPlaces + 1) then (m, lead) else (10 ^ displayPlaces, lead + 1)

/-- `u` units as one digit, six places and a power of ten with its sign. -/
def scientific (u : Nat) : List Char :=
  let (m, exponent) := if u = 0 then (0, 0) else leadingDigits u
  (⟨m, -displayPlaces⟩ : Decimal).positional ++
    'e' :: (if exponent < 0 then '-' else '+') :: Nat.toDigits 10 exponent.natAbs

/-- The double as it is shown. -/
def display (x : Float) : String :=
  String.ofList <|
    match parts x with
    | .nan => "NaN".toList
    | .infinite negative => minus negative ++ "inf".toList
    | .finite negative i =>
      minus negative ++
        if x.abs < 0.000001 || x.abs > 999999 then scientific (units i)
        else (fixedDecimal (units i)).positional

end Formulary

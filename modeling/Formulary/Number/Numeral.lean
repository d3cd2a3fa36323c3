import Formulary.Number.Plain

/-!
# Numbers in text

Three forms of numbers are read, each as the nearest double.

* `numeral? s`: the whole text is digits with an optional point, as in a formula.
* `leading? s`: the longest start of the text that is a number with an optional sign and an
  optional power of ten, and the text after it.
* `number? s`: the whole text is such a number, or an infinity or `nan` in letters of either case.

Digits are the ten of ASCII.
-/

namespace Formulary.Number

/-! ## 1. The pieces -/

/-- A decimal with a sign. -/
structure Signed where
  negative : Bool
  magnitude : Decimal
deriving DecidableEq, Repr

/-- The nearest double. -/
def Signed.toFloat (x : Signed) : Float :=
  x.magnitude.toFloat x.negative

/-- The nearest double, unless it is infinite. -/
def Signed.finite? (x : Signed) : Option Float :=
  x.magnitude.finite? x.negative

/-- The value of a run of digits. -/
def digitsValue (s : List Char) : Nat :=
  Nat.ofDigitChars 10 s 0

/-- An optional sign: whether it is a minus, and the text after it. -/
def sign : List Char → Bool × List Char
  | '-' :: rest => (true, rest)
  | '+' :: rest => (false, rest)
  | s => (false, s)

/-- The longest start of the text that is digits, or digits, a point and any number of digits, or a
point and digits; and the text after it. -/
def unsigned? (s : List Char) : Option (Decimal × List Char) :=
  let whole := s.takeWhile Char.isDigit
  match s.dropWhile Char.isDigit with
  | '.' :: rest =>
    let fraction := rest.takeWhile Char.isDigit
    if whole.isEmpty && fraction.isEmpty then none
    else some (⟨digitsValue (whole ++ fraction), -fraction.length⟩, rest.dropWhile Char.isDigit)
  | rest => if whole.isEmpty then none else some (⟨digitsValue whole, 0⟩, rest)

/-- An optional power of ten, `e` or `E` with an optional sign and digits: its exponent, and the
text after it. An `e` without digits belongs to the text after it. -/
def power (s : List Char) : Int × List Char :=
  match s with
  | [] => (0, [])
  | c :: rest =>
    let (negative, tail) := sign rest
    let digits := tail.takeWhile Char.isDigit
    if (c = 'e' || c = 'E') && !digits.isEmpty then
      (if negative then -(digitsValue digits : Int) else digitsValue digits,
        tail.dropWhile Char.isDigit)
    else (0, s)

/-! ## 2. The three forms -/

/-- The number that the whole text is, if it is digits with an optional point. -/
def numeral? (s : List Char) : Option Decimal :=
  match unsigned? s with
  | some (d, []) => some d
  | _ => none

/-- The longest start of the text that is a number with an optional sign and an optional power of
ten, and the text after it. -/
def leading? (s : List Char) : Option (Signed × List Char) :=
  let (negative, tail) := sign s
  (unsigned? tail).map fun (d, rest) =>
    let (e, rest) := power rest
    (⟨negative, ⟨d.coefficient, d.exponent + e⟩⟩, rest)

/-- The double that the whole text is: a number with an optional power of ten, `inf`, `infinity` or
`nan`, each with an optional sign. -/
def number? (s : List Char) : Option Float :=
  match leading? s with
  | some (x, []) => some x.toFloat
  | _ =>
    let (negative, word) := sign s
    let word := String.ofList (word.map Char.toLower)
    if word = "inf" || word = "infinity" then some (ofIndex negative infiniteIndex)
    else if word = "nan" then some nan
    else none

example : numeral? "5.".toList = some ⟨5, 0⟩ ∧ numeral? ".50".toList = some ⟨50, -2⟩ := by decide

example : ["", ".", "1e3", "-1", "1 ", "1.2.3"].map (fun s => numeral? s.toList) =
    [none, none, none, none, none, none] := by decide

example : leading? "-2.5kg".toList = some (⟨true, ⟨25, -1⟩⟩, "kg".toList) := by decide

example : leading? "5.e3".toList = some (⟨false, ⟨5, 3⟩⟩, []) := by decide

example : leading? "1e+".toList = some (⟨false, ⟨1, 0⟩⟩, "e+".toList) := by decide

example : leading? ".e3".toList = none := by decide

end Formulary.Number

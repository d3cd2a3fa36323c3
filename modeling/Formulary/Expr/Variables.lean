import Formulary.Expr
import Formulary.Token.Scan

/-!
# The variables of a formula

They are found in the expression (`Expr.variableNames`) and, whether or not the text has an
expression, in its tokens (`variableNames`). Both list each name once, in the order of first
appearance.

Result.
* Listing first appearances keeps the names and repeats none (`mem_firstAppearances`,
  `nodup_firstAppearances`).
-/

namespace Formulary

/-- Each character once, in the order of first appearance. -/
def firstAppearances : List Char → List Char
  | [] => []
  | c :: rest => c :: (firstAppearances rest).filter (· != c)

theorem mem_firstAppearances {c : Char} {s : List Char} : c ∈ firstAppearances s ↔ c ∈ s := by
  induction s with
  | nil => simp [firstAppearances]
  | cons d rest ih =>
    by_cases h : c = d <;> simp [firstAppearances, ih, h]

theorem nodup_firstAppearances (s : List Char) : (firstAppearances s).Nodup := by
  induction s with
  | nil => simp [firstAppearances]
  | cons c rest ih =>
    simp only [firstAppearances, List.nodup_cons]
    exact ⟨by simp, ih.filter _⟩

/-- The names of the variables from left to right, with repetitions. -/
def Expr.letters : Expr → List Char
  | number _ => []
  | var name => [name]
  | call _ argument => argument.letters
  | binary _ left right => left.letters ++ right.letters

/-- The names of the variables in the expression. -/
def Expr.variableNames (e : Expr) : List Char :=
  firstAppearances e.letters

/-- The name of a letter. -/
def Token.letter? : Token → Option Char
  | letter name => some name
  | _ => none

/-- The names of the letters among the tokens. -/
def tokenVariables (tokens : List Token) : List Char :=
  firstAppearances (tokens.filterMap Token.letter?)

/-- The names of the variables in a text. -/
def variableNames (formula : String) : List Char :=
  tokenVariables (tokenize formula)

example : variableNames "(b+ln(a)*b" = ['b', 'a'] := by decide

end Formulary

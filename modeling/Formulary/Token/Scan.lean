import Formulary.Text.Blank
import Formulary.Token

/-!
# The tokens of a text

`tokenize` reads a text from left to right. Blank characters, symbols and the names of the
logarithms end a run of other characters; a run is one token, blank characters are none. The names
win over a letter `l` and end a run wherever they stand, so `xlny` is `x`, `ln`, `y`.

Every text has tokens: what is no symbol and no name collects into literals.
-/

namespace Formulary

/-- The tokens of a run that has ended: one, unless the run is empty. -/
def Token.ofPending (run : List Char) : List Token :=
  if run.isEmpty then [] else [Token.ofRun run]

/-- The tokens of the rest of a text, where `pending` holds the run before it, last character
first. -/
def Token.scan (pending : List Char) : List Char → List Token
  | [] => Token.ofPending pending.reverse
  | 'l' :: 'o' :: 'g' :: rest =>
    Token.ofPending pending.reverse ++ .logarithm .common :: Token.scan [] rest
  | 'l' :: 'n' :: rest =>
    Token.ofPending pending.reverse ++ .logarithm .natural :: Token.scan [] rest
  | c :: rest =>
    if Text.isBlank c then Token.ofPending pending.reverse ++ Token.scan [] rest
    else match Token.ofSymbol? c with
      | some t => Token.ofPending pending.reverse ++ t :: Token.scan [] rest
      | none => Token.scan (c :: pending) rest

/-- The tokens of a formula's text. -/
def tokenize (formula : String) : List Token :=
  Token.scan [] formula.toList

example : tokenize "2*lnx" =
    [.literal "2", .operator .multiply, .logarithm .natural, .letter 'x'] := by decide

example : tokenize "lolog 3." = [.literal "lo", .logarithm .common, .literal "3."] := by decide

end Formulary

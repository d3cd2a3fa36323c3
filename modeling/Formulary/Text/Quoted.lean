import Formulary.Text.Printable

/-!
# Quoted texts

A text in quotes for a reader who has to tell its characters apart: quotes and backslashes follow
a backslash, some control characters have letters of their own, and other characters that do not
show by themselves are written by their code points.
-/

namespace Formulary.Text

/-- The character as it is written in a quoted text. -/
def quotedChar (c : Char) : List Char :=
  match c with
  | '"' => ['\\', '"']
  | '\\' => ['\\', '\\']
  | '\x00' => ['\\', '0']
  | '\t' => ['\\', 't']
  | '\n' => ['\\', 'n']
  | '\r' => ['\\', 'r']
  | c => if isPrintable c then [c] else "\\u\x7b".toList ++ Nat.toDigits 16 c.toNat ++ "\x7d".toList

/-- The text in quotes. -/
def quoted (s : String) : String :=
  String.ofList ('"' :: s.toList.flatMap quotedChar ++ ['"'])

example : quoted "a\"b\\'" = "\"a\\\"b\\\\'\"" := by decide +kernel

example : quoted "x\x01y\x7f" = "\"x\\u\x7b1\x7dy\\u\x7b7f\x7d\"" := by decide +kernel

end Formulary.Text

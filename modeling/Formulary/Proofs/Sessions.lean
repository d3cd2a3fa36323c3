import Formulary.Proofs.Environments
import Formulary.Session

/-!
# Sessions under edits

An edit replaces the text of the formula or gives a variable a typed value. Whatever the edits, what
a session keeps belongs together: nothing in it comes from an earlier formula or from earlier
values.

* `Edit`, `s.edit`, `s.run`: an edit, its effect on a session, and the effect of several in order.
* `s.Coherent limits`: the variables, the expression, the markup and the outcome of `s` are those of
  its formula, under these limits.

Results.
* What an edit does, case by case (`setFormula_of_blank` and the lemmas after it).
* Either edit keeps a session coherent (`Coherent.setFormula`, `Coherent.setVariable`).
* Every session is coherent (`coherent_run`).
-/

namespace Formulary

/-! ## 1. Edits -/

/-- What a person does in a session. -/
inductive Edit
  /-- The text of the formula is replaced. -/
  | formula (text : String)
  /-- A variable is given the value of a typed text. -/
  | value (name : Char) (text : String)

namespace Session

/-- The session after an edit. -/
def edit (s : Session) : Edit → Session
  | .formula text => s.setFormula text
  | .value name text => s.setVariable name text

/-- The session after some edits, one after the other. -/
def run (s : Session) (edits : List Edit) : Session :=
  edits.foldl edit s

/-! ## 2. What an edit does -/

variable {limits : Limits} {s : Session} {formula text : String} {name : Char} {e : Expr}

theorem setFormula_of_blank (hblank : Text.isBlankText formula = true) :
    s.setFormula formula =
      { s with
        formula := formula
        environment := .forFormula formula s.environment
        expr? := none
        markup := ""
        outcome := .empty } :=
  if_pos hblank

theorem setFormula_of_ok (hblank : Text.isBlankText formula = false)
    (hparse : parseFormula formula = .ok e) :
    s.setFormula formula =
      { s with
        formula := formula
        environment := .forFormula formula s.environment
        expr? := some e
        markup := render e
        outcome := .ofResult (e.evaluate s.limits (.forFormula formula s.environment)) } := by
  rw [setFormula, if_neg (Bool.eq_false_iff.1 hblank), hparse]
  rfl

theorem setFormula_of_error {error : ParseError} (hblank : Text.isBlankText formula = false)
    (hparse : parseFormula formula = .error error) :
    s.setFormula formula =
      { s with
        formula := formula
        environment := .forFormula formula s.environment
        expr? := none
        markup := formula
        outcome := .error (.parse error) } := by
  rw [setFormula, if_neg (Bool.eq_false_iff.1 hblank), hparse]

theorem setVariable_of_not_contains (hname : s.environment.contains name = false) :
    s.setVariable name text = s := by
  rw [setVariable, if_neg (Bool.eq_false_iff.1 hname)]

theorem setVariable_of_none (hname : s.environment.contains name = true) (he : s.expr? = none) :
    s.setVariable name text = { s with environment := s.environment.setText name text } := by
  rw [setVariable, if_pos hname, reevaluate, he]

theorem setVariable_of_some (hname : s.environment.contains name = true) (he : s.expr? = some e) :
    s.setVariable name text =
      { s with
        environment := s.environment.setText name text
        outcome := .ofResult (e.evaluate s.limits (s.environment.setText name text)) } := by
  rw [setVariable, if_pos hname, reevaluate, he]

theorem setFormula_formula (s : Session) (formula : String) :
    (s.setFormula formula).formula = formula := by
  unfold setFormula
  split
  · rfl
  · split <;> rfl

theorem setFormula_environment (s : Session) (formula : String) :
    (s.setFormula formula).environment = .forFormula formula s.environment := by
  unfold setFormula
  split
  · rfl
  · split <;> rfl

theorem reevaluate_formula (s : Session) : s.reevaluate.formula = s.formula := by
  unfold reevaluate
  split <;> rfl

theorem reevaluate_environment (s : Session) : s.reevaluate.environment = s.environment := by
  unfold reevaluate
  split <;> rfl

theorem setVariable_formula (s : Session) (name : Char) (text : String) :
    (s.setVariable name text).formula = s.formula := by
  unfold setVariable
  split
  · exact reevaluate_formula _
  · rfl

theorem setVariable_environment (hname : s.environment.contains name = true) (text : String) :
    (s.setVariable name text).environment = s.environment.setText name text := by
  rw [setVariable, if_pos hname, reevaluate_environment]

/-- A new formula keeps the values of the names that it shares with the old one. -/
theorem get?_setFormula (s : Session) (formula : String) (name : Char) :
    (s.setFormula formula).environment.get? name =
      if name ∈ variableNames formula then some (s.environment.get name) else none := by
  rw [setFormula_environment, Environment.get?_forFormula]

/-- A typed value replaces the value of its name, if there is one, and no other. -/
theorem get?_setVariable (s : Session) (name : Char) (text : String) (other : Char) :
    (s.setVariable name text).environment.get? other =
      if other = name then (s.environment.get? other).map fun _ => enteredValue text
      else s.environment.get? other := by
  cases hname : s.environment.contains name with
  | false =>
    have hnone : s.environment.get? name = none :=
      Option.isNone_iff_eq_none.1 (Option.isSome_eq_false_iff.1 hname)
    rw [setVariable_of_not_contains hname]
    split
    · next heq => rw [heq, hnone, Option.map_none]
    · rfl
  | true =>
    obtain ⟨value, hvalue⟩ := Option.isSome_iff_exists.1 hname
    rw [setVariable_environment hname, Environment.setText, Environment.get?_set]
    split
    · next heq => rw [heq, hvalue, Option.map_some]
    · rfl

/-- A typed value neither adds nor takes away a name. -/
theorem contains_setVariable (s : Session) (name : Char) (text : String) (other : Char) :
    (s.setVariable name text).environment.contains other = s.environment.contains other := by
  rw [Environment.contains, get?_setVariable]
  split
  · exact Option.isSome_map
  · rfl

/-- Typed values leave the formula as it is. -/
theorem run_formula_eq_self {edits : List Edit}
    (h : ∀ edit ∈ edits, ∀ text, edit ≠ .formula text) : (s.run edits).formula = s.formula := by
  induction edits generalizing s with
  | nil => rfl
  | cons edit edits ih =>
    obtain ⟨hedit, hedits⟩ := List.forall_mem_cons.1 h
    refine (ih hedits).trans ?_
    cases edit with
    | formula text => exact absurd rfl (hedit text)
    | value name text => exact setVariable_formula s name text

theorem ofResult_eq_value_iff {r : Except EvalError Float} {v : Float} :
    Outcome.ofResult r = .value v ↔ r = .ok v := by
  cases r <;> simp [Outcome.ofResult]

theorem ofResult_eq_error_iff {r : Except EvalError Float} {error : EvalError} :
    Outcome.ofResult r = .error (.eval error) ↔ r = .error error := by
  cases r <;> simp [Outcome.ofResult]

/-! ## 3. Coherence -/

/-- The expression and the outcome are those of what the parser said. -/
def Shows (limits : Limits) (s : Session) : Except ParseError Expr → Prop
  | .ok e =>
    s.expr? = some e ∧
      (∀ v, s.outcome = .value v ↔ e.evaluate limits s.environment = .ok v) ∧
      ∀ error, s.outcome = .error (.eval error) ↔
        e.evaluate limits s.environment = .error error
  | .error error => s.expr? = none ∧ s.outcome = .error (.parse error)

/-- What the session keeps belongs to its formula and to the values of its variables. -/
structure Coherent (limits : Limits) (s : Session) : Prop where
  limits_eq : s.limits = limits
  /-- The variables are those of the formula. -/
  names : s.environment.names.Perm (variableNames s.formula)
  finite : s.environment.Finite
  /-- A blank formula has nothing. -/
  blank : Text.isBlankText s.formula = true →
    s.expr? = none ∧ s.markup = "" ∧ s.outcome = .empty
  /-- Any other has its markup, its expression and its outcome. -/
  markup : Text.isBlankText s.formula = false → s.markup = renderFormula s.formula
  shows : Text.isBlankText s.formula = false → s.Shows limits (parseFormula s.formula)

theorem shows_ofResult (he : s.expr? = some e)
    (houtcome : s.outcome = .ofResult (e.evaluate limits s.environment)) :
    s.Shows limits (.ok e) := by
  refine ⟨he, fun v => ?_, fun error => ?_⟩
  · rw [houtcome, ofResult_eq_value_iff]
  · rw [houtcome, ofResult_eq_error_iff]

/-- The expression that a session holds is that of its formula. -/
theorem Coherent.parseFormula_eq (h : s.Coherent limits) (he : s.expr? = some e) :
    Text.isBlankText s.formula = false ∧ parseFormula s.formula = .ok e := by
  have hblank : Text.isBlankText s.formula = false := by
    refine Bool.eq_false_iff.2 fun hb => ?_
    rw [(h.blank hb).1] at he
    cases he
  have hshows := h.shows hblank
  refine ⟨hblank, ?_⟩
  cases hparse : parseFormula s.formula with
  | ok e' =>
    rw [hparse] at hshows
    rw [hshows.1, Option.some.injEq] at he
    rw [he]
  | error error =>
    rw [hparse] at hshows
    rw [hshows.1] at he
    cases he

/-- The outcome that belongs to an expression is that of its evaluation. -/
theorem Shows.outcome_eq (h : s.Shows limits (.ok e)) :
    s.outcome = .ofResult (e.evaluate limits s.environment) := by
  cases hv : e.evaluate limits s.environment with
  | ok v => exact (h.2.1 v).2 hv
  | error error => exact (h.2.2 error).2 hv

/-- The names with values are the variables of the formula. -/
theorem Coherent.contains_iff (h : s.Coherent limits) :
    s.environment.contains name = true ↔ name ∈ variableNames s.formula := by
  rw [← h.names.mem_iff, Environment.mem_names]
  rfl

theorem Coherent.get?_eq_none (h : s.Coherent limits)
    (hname : name ∉ variableNames s.formula) : s.environment.get? name = none := by
  rw [← h.contains_iff, Environment.contains, Option.not_isSome_iff_eq_none] at hname
  exact hname

/-! ## 4. Edits keep coherence -/

theorem coherent_start (limits : Limits) : (start limits).Coherent limits where
  limits_eq := rfl
  names := List.Perm.nil
  finite := List.forall_mem_nil _
  blank _ := ⟨rfl, rfl, rfl⟩
  markup h := nomatch h
  shows h := nomatch h

/-- A new formula makes everything new, except the values that it takes over. -/
theorem Coherent.setFormula (h : s.Coherent limits) (formula : String) :
    (s.setFormula formula).Coherent limits := by
  have names := Environment.names_forFormula formula s.environment
  have finite := Environment.finite_forFormula h.finite formula
  cases hblank : Text.isBlankText formula with
  | true =>
    rw [setFormula_of_blank hblank]
    have hne : Text.isBlankText formula ≠ false := fun hnot => nomatch hblank.symm.trans hnot
    exact ⟨h.limits_eq, names, finite, fun _ => ⟨rfl, rfl, rfl⟩, fun hb => absurd hb hne,
      fun hb => absurd hb hne⟩
  | false =>
    have hne : Text.isBlankText formula ≠ true := fun hb => nomatch hblank.symm.trans hb
    cases hparse : parseFormula formula with
    | ok e =>
      rw [setFormula_of_ok hblank hparse]
      refine ⟨h.limits_eq, names, finite, fun hb => absurd hb hne, fun _ => ?_, fun _ => ?_⟩
      · show render e = renderFormula formula
        rw [renderFormula, hparse]
      · rw [show parseFormula _ = _ from hparse]
        exact shows_ofResult rfl (by rw [h.limits_eq])
    | error error =>
      rw [setFormula_of_error hblank hparse]
      refine ⟨h.limits_eq, names, finite, fun hb => absurd hb hne, fun _ => ?_, fun _ => ?_⟩
      · show formula = renderFormula formula
        rw [renderFormula, hparse]
      · rw [show parseFormula _ = _ from hparse]
        exact ⟨rfl, rfl⟩

/-- A value changes the outcome alone, and that only where there is an expression. -/
theorem Coherent.setVariable (h : s.Coherent limits) (name : Char) (text : String) :
    (s.setVariable name text).Coherent limits := by
  cases hname : s.environment.contains name with
  | false =>
    rw [setVariable_of_not_contains hname]
    exact h
  | true =>
    have names : (s.environment.setText name text).names.Perm (variableNames s.formula) :=
      (Environment.names_set hname _).trans h.names
    have finite := Environment.finite_setText h.finite name text
    cases he : s.expr? with
    | none =>
      rw [setVariable_of_none hname he]
      refine ⟨h.limits_eq, names, finite, h.blank, h.markup, fun hblank => ?_⟩
      have hshows := h.shows hblank
      show Shows limits _ (parseFormula s.formula)
      -- without an expression there is an error of the parser, which values do not change
      cases hparse : parseFormula s.formula with
      | ok e =>
        rw [hparse] at hshows
        exact nomatch he.symm.trans hshows.1
      | error error =>
        rw [hparse] at hshows
        exact hshows
    | some e =>
      obtain ⟨hblank, hparse⟩ := h.parseFormula_eq he
      rw [setVariable_of_some hname he]
      have hne : Text.isBlankText s.formula ≠ true := fun hb => nomatch hblank.symm.trans hb
      refine ⟨h.limits_eq, names, finite, fun hb => absurd hb hne, h.markup, fun _ => ?_⟩
      rw [show parseFormula _ = _ from hparse]
      exact shows_ofResult he (by rw [h.limits_eq])

theorem Coherent.edit (h : s.Coherent limits) (edit : Edit) : (s.edit edit).Coherent limits := by
  cases edit with
  | formula text => exact h.setFormula text
  | value name text => exact h.setVariable name text

theorem Coherent.run (h : s.Coherent limits) (edits : List Edit) :
    (s.run edits).Coherent limits := by
  induction edits generalizing s with
  | nil => exact h
  | cons edit edits ih => exact ih (h.edit edit)

/-- Whatever the edits, a session is coherent after them. -/
theorem coherent_run (limits : Limits) (edits : List Edit) :
    ((start limits).run edits).Coherent limits :=
  (coherent_start limits).run edits

end Session

end Formulary

import Formulary.Proofs.Sessions
import Mathlib.Data.List.Induction

/-!
# Values as a matter of history

The value of a variable is decided by the edits since its name came into the formula, and by
nothing before them.

* `lastFormula edits`, `lastTyped name edits`: the formula typed last, and the value typed last for
  a name.
* `Enters name before text`: after the edits `before`, the name comes into the formula with `text`.
* `SinceEntry name edits after`: the edits end with `after`, and the name came into the formula just
  before that for the last time.

Results.
* What comes after the last entry is determined by the edits (`SinceEntry.unique`).
* A variable has the value typed last since its name came in, or 0 (`exists_sinceEntry`).
* So it is in every session; a formula without the name resets its value, a formula with it does not
  (`value_since_entry`).
-/

namespace Formulary

/-! ## 1. Histories -/

/-- The text that replaces the formula. -/
def Edit.formula? : Edit → Option String
  | formula text => some text
  | value .. => none

/-- The text that is typed as the value of the name. -/
def Edit.typed? (name : Char) : Edit → Option String
  | formula _ => none
  | value other text => if name = other then some text else none

/-- The formula after the edits, which is the one typed last; at first it is empty. -/
def lastFormula (edits : List Edit) : String :=
  (edits.filterMap Edit.formula?).getLast?.getD ""

/-- The value typed last for the name; 0 if none was typed. -/
def lastTyped (name : Char) (edits : List Edit) : Float :=
  ((edits.filterMap (Edit.typed? name)).getLast?.map enteredValue).getD 0

/-- After the edits, the name comes into the formula with the text: it is a variable of the text and
none of the formula before. -/
def Enters (name : Char) (before : List Edit) (text : String) : Prop :=
  name ∈ variableNames text ∧ name ∉ variableNames (lastFormula before)

/-- The edits end with `after`. The edit before that is the last with which the name came into the
formula. -/
def SinceEntry (name : Char) (edits after : List Edit) : Prop :=
  ∃ before text, edits = before ++ .formula text :: after ∧ Enters name before text ∧
    ∀ front new back, after = front ++ .formula new :: back →
      ¬ Enters name (before ++ .formula text :: front) new

namespace HistoryLemmas

variable {name : Char} {edits after : List Edit}

theorem lastFormula_concat_formula (edits : List Edit) (text : String) :
    lastFormula (edits ++ [.formula text]) = text := by
  simp [lastFormula, Edit.formula?]

theorem lastFormula_concat_value (edits : List Edit) (name : Char) (text : String) :
    lastFormula (edits ++ [.value name text]) = lastFormula edits := by
  simp [lastFormula, Edit.formula?]

theorem lastTyped_concat_formula (name : Char) (edits : List Edit) (text : String) :
    lastTyped name (edits ++ [.formula text]) = lastTyped name edits := by
  simp [lastTyped, Edit.typed?]

theorem lastTyped_concat_value (name other : Char) (edits : List Edit) (text : String) :
    lastTyped name (edits ++ [.value other text]) =
      if name = other then enteredValue text else lastTyped name edits := by
  by_cases h : name = other <;> simp [lastTyped, Edit.typed?, h]

theorem run_concat (s : Session) (edits : List Edit) (edit : Edit) :
    s.run (edits ++ [edit]) = (s.run edits).edit edit := by
  rw [Session.run, List.foldl_append]
  rfl

end HistoryLemmas

open HistoryLemmas

/-! ## 2. The last entry -/

/-- The name comes in with the last edit. -/
theorem SinceEntry.enter {name : Char} {edits : List Edit} {text : String}
    (h : Enters name edits text) : SinceEntry name (edits ++ [.formula text]) [] := by
  refine ⟨edits, text, rfl, h, fun front new back heq => ?_⟩
  exact absurd heq.symm (List.append_ne_nil_of_right_ne_nil _ (List.cons_ne_nil _ _))

/-- One more edit with which the name does not come in. -/
theorem SinceEntry.concat {name : Char} {edits after : List Edit} (h : SinceEntry name edits after)
    {edit : Edit} (hedit : ∀ text, edit = .formula text → ¬ Enters name edits text) :
    SinceEntry name (edits ++ [edit]) (after ++ [edit]) := by
  obtain ⟨before, text, rfl, henters, hlater⟩ := h
  refine ⟨before, text, by simp, henters, fun front new back heq => ?_⟩
  -- the formula in question is the last edit or one of those before it
  obtain rfl | ⟨back, e, rfl⟩ := List.eq_nil_or_concat back
  · obtain ⟨rfl, hlast⟩ := List.append_inj' heq rfl
    exact hedit new (List.cons.inj hlast).1
  · rw [List.concat_eq_append, ← List.cons_append, ← List.append_assoc] at heq
    exact hlater front new back (List.append_inj' heq rfl).1

/-- What comes after the last entry is determined by the edits. -/
theorem SinceEntry.unique {name : Char} {edits after after' : List Edit}
    (h : SinceEntry name edits after) (h' : SinceEntry name edits after') : after = after' := by
  obtain ⟨before, text, rfl, henters, hlater⟩ := h
  obtain ⟨before', text', heq, henters', hlater'⟩ := h'
  -- of two entries in different places, the later one comes after the earlier one
  obtain ⟨mid, rfl, htail⟩ | ⟨mid, rfl, htail⟩ := List.append_eq_append_iff.1 heq
  · cases mid with
    | nil => exact (List.cons.inj htail).2
    | cons edit mid =>
      obtain ⟨rfl, rfl⟩ := List.cons.inj htail
      exact absurd henters' (hlater mid text' after' rfl)
  · cases mid with
    | nil => exact (List.cons.inj htail).2.symm
    | cons edit mid =>
      obtain ⟨rfl, rfl⟩ := List.cons.inj htail
      exact absurd henters (hlater' mid text after rfl)

/-! ## 3. Values -/

namespace Session

theorem run_formula_eq_lastFormula (limits : Limits) (edits : List Edit) :
    ((start limits).run edits).formula = lastFormula edits := by
  induction edits using List.reverseRecOn with
  | nil => rfl
  | append_singleton edits edit ih =>
    rw [run_concat]
    cases edit with
    | formula text =>
      rw [lastFormula_concat_formula]
      exact setFormula_formula _ text
    | value name text =>
      rw [lastFormula_concat_value, ← ih]
      exact setVariable_formula _ name text

/-- A variable has the value typed last since its name came into the formula. -/
theorem exists_sinceEntry (limits : Limits) (edits : List Edit) (name : Char)
    (h : name ∈ variableNames (lastFormula edits)) :
    ∃ after, SinceEntry name edits after ∧
      ((start limits).run edits).environment.get? name = some (lastTyped name after) := by
  induction edits using List.reverseRecOn with
  | nil => cases h
  | append_singleton edits edit ih =>
    rw [run_concat]
    cases edit with
    | formula text =>
      rw [lastFormula_concat_formula] at h
      have hget := get?_setFormula ((start limits).run edits) text name
      rw [if_pos h] at hget
      by_cases hbefore : name ∈ variableNames (lastFormula edits)
      · obtain ⟨after, hsince, hvalue⟩ := ih hbefore
        refine ⟨after ++ [.formula text], hsince.concat fun _ _ henters => henters.2 hbefore, ?_⟩
        rw [lastTyped_concat_formula, ← hvalue, edit, hget, Environment.get, hvalue]
        rfl
      · -- the name is new, so there is no value that it could keep
        have hnone : ((start limits).run edits).environment.get? name = none :=
          (coherent_run limits edits).get?_eq_none (by rwa [run_formula_eq_lastFormula])
        refine ⟨[], .enter ⟨h, hbefore⟩, ?_⟩
        rw [edit, hget, Environment.get, hnone]
        rfl
    | value other text =>
      rw [lastFormula_concat_value] at h
      obtain ⟨after, hsince, hvalue⟩ := ih h
      refine ⟨after ++ [.value other text], hsince.concat (fun _ hedit => by cases hedit), ?_⟩
      rw [edit, get?_setVariable, hvalue, lastTyped_concat_value]
      split <;> rfl

/-- A variable has the value typed last since its name came into the formula, or 0 if none was
typed. A formula that has the name, whether or not it parses, keeps the value, and one without it
makes it start again from 0. A value for any other name changes nothing at all. -/
theorem value_since_entry (limits : Limits) (edits : List Edit) :
    let s := (start limits).run edits
    (∀ name ∈ s.environment.names,
      (∃ after, SinceEntry name edits after) ∧
      (∀ after, SinceEntry name edits after →
        s.environment.get? name = some (lastTyped name after)) ∧
      (∀ text, name ∈ variableNames text →
        (s.setFormula text).environment.get? name = s.environment.get? name) ∧
      ∀ gone back, name ∉ variableNames gone → name ∈ variableNames back →
        ((s.setFormula gone).setFormula back).environment.get? name = some 0) ∧
    ∀ name text, name ∉ variableNames s.formula → s.setVariable name text = s := by
  intro s
  have hcoherent : s.Coherent limits := coherent_run limits edits
  refine ⟨fun name hname => ?_, fun name text hname => ?_⟩
  · rw [hcoherent.names.mem_iff, run_formula_eq_lastFormula] at hname
    obtain ⟨after, hsince, hvalue⟩ := exists_sinceEntry limits edits name hname
    refine ⟨⟨after, hsince⟩, fun after' hsince' => ?_, fun text htext => ?_, ?_⟩
    · rw [← hsince.unique hsince']
      exact hvalue
    · rw [get?_setFormula, if_pos htext, Environment.get, hvalue]
      rfl
    · intro gone back hgone hback
      rw [get?_setFormula, if_pos hback, Environment.get, get?_setFormula, if_neg hgone]
      rfl
  · rw [← hcoherent.contains_iff, Bool.not_eq_true] at hname
    exact setVariable_of_not_contains hname

end Session

end Formulary

import Formulary.Proofs.Sessions
import Formulary.Proofs.TypedValues

/-!
# Sessions without memory

A session holds no more than what it shows. Whatever edits led to it, the same session comes about
again when its formula is typed, and then its values in plain digits.

* `Edit.restore entry`: the edit that types a value in plain digits.

Results.
* Coherent sessions with the same formula and the same values are the same (`Coherent.ext`).
* The values that are typed again are the old ones (`get?_replay`).
* A session is restored by its formula and its values, typed in any order (`run_restore`).
-/

namespace Formulary

open Number (plainText)

/-- The edit that types the value in plain digits. -/
def Edit.restore (entry : Char × Float) : Edit :=
  .value entry.1 (plainText entry.2)

namespace Session

variable {limits : Limits} {s s' : Session}

/-! ## 1. What a session consists of -/

/-- Coherent sessions with the same formula and the same values are the same. -/
theorem Coherent.ext (h : s.Coherent limits) (h' : s'.Coherent limits)
    (hformula : s.formula = s'.formula) (henv : s.environment = s'.environment) : s = s' := by
  have hlimits := h.limits_eq.trans h'.limits_eq.symm
  obtain ⟨l, f, env, expr?, markup, outcome⟩ := s
  obtain ⟨l', f', env', expr?', markup', outcome'⟩ := s'
  obtain rfl : l = l' := hlimits
  obtain rfl : f = f' := hformula
  obtain rfl : env = env' := henv
  rw [mk.injEq]
  refine ⟨rfl, rfl, rfl, ?_⟩
  cases hblank : Text.isBlankText f with
  | true =>
    obtain ⟨he, hmarkup, houtcome⟩ := h.blank hblank
    obtain ⟨he', hmarkup', houtcome'⟩ := h'.blank hblank
    exact ⟨he.trans he'.symm, hmarkup.trans hmarkup'.symm, houtcome.trans houtcome'.symm⟩
  | false =>
    have hmarkup := (h.markup hblank).trans (h'.markup hblank).symm
    have hshows := h.shows hblank
    have hshows' := h'.shows hblank
    dsimp only at hmarkup hshows hshows'
    cases hparse : parseFormula f with
    | ok e =>
      rw [hparse] at hshows hshows'
      exact ⟨hshows.1.trans hshows'.1.symm, hmarkup,
        hshows.outcome_eq.trans hshows'.outcome_eq.symm⟩
    | error error =>
      rw [hparse] at hshows hshows'
      exact ⟨hshows.1.trans hshows'.1.symm, hmarkup, hshows.2.trans hshows'.2.symm⟩

/-! ## 2. Values that are typed again -/

/-- Where `env` has finite values for the names of a session, those listed are the session's after
they have been typed again. -/
theorem get?_replay {env : Environment} (hfinite : env.Finite) {order : List (Char × Float)}
    (horder : ∀ entry ∈ order, entry ∈ env.entries)
    (hnames : ∀ name, s.environment.contains name = env.contains name) (name : Char) :
    (s.run (order.map Edit.restore)).environment.get? name =
      if name ∈ order.map (·.1) then env.get? name else s.environment.get? name := by
  induction order generalizing s with
  | nil => rfl
  | cons entry order ih =>
    obtain ⟨hentry, horder⟩ := List.forall_mem_cons.1 horder
    have hvalue : env.get? entry.1 = some entry.2 := Environment.get?_eq_some_iff.2 hentry
    have hstep (other : Char) :
        (s.setVariable entry.1 (plainText entry.2)).environment.get? other =
          if other = entry.1 then env.get? other else s.environment.get? other := by
      rw [get?_setVariable]
      split
      · next heq =>
        subst heq
        have hcontains : s.environment.contains entry.1 = true := by
          rw [hnames, Environment.contains, hvalue]
          rfl
        obtain ⟨old, hold⟩ := Option.isSome_iff_exists.1 hcontains
        rw [hold, hvalue, Option.map_some, enteredValue_plainText (hfinite entry hentry)]
      · rfl
    have hkept (other : Char) :
        (s.setVariable entry.1 (plainText entry.2)).environment.contains other =
          env.contains other :=
      (contains_setVariable s entry.1 _ other).trans (hnames other)
    show ((s.setVariable entry.1 (plainText entry.2)).run _).environment.get? name = _
    rw [ih horder hkept, hstep, List.map_cons]
    by_cases hname : name = entry.1
    · simp [hname]
    · simp only [List.mem_cons, hname, if_false, false_or]

/-! ## 3. Replays -/

/-- A coherent session is restored by its formula and its values, typed in any order. -/
theorem Coherent.run_restore (h : s.Coherent limits) {order : List (Char × Float)}
    (horder : order.Perm s.environment.entries) :
    ((start limits).setFormula s.formula).run (order.map Edit.restore) = s := by
  -- the new session has the names of the old one as soon as the formula is typed
  have hstart : ((start limits).setFormula s.formula).Coherent limits :=
    (coherent_start limits).setFormula s.formula
  have hnames (name : Char) : ((start limits).setFormula s.formula).environment.contains name =
      s.environment.contains name := by
    rw [Bool.eq_iff_iff, hstart.contains_iff, h.contains_iff, setFormula_formula]
  refine Coherent.ext (hstart.run _) h ?_ (Environment.ext_get? fun name => ?_)
  · refine (run_formula_eq_self fun edit hedit text => ?_).trans (setFormula_formula _ _)
    obtain ⟨entry, -, rfl⟩ := List.mem_map.1 hedit
    exact Edit.noConfusion
  · rw [get?_replay h.finite (fun entry => horder.mem_iff.1) hnames name]
    split
    · rfl
    · next hnot =>
      -- a name that is not listed has no value, in the old session and so in the new one
      have hnone : name ∉ variableNames s.formula := by
        rwa [(horder.map _).mem_iff, ← Environment.names, h.names.mem_iff] at hnot
      rw [h.get?_eq_none hnone, hstart.get?_eq_none (by rwa [setFormula_formula])]

/-- Whatever the edits that led to a session, it is restored by its formula and its values, typed in
any order: nothing else of the edits is kept. -/
theorem run_restore_eq (limits : Limits) (edits : List Edit) (order : List (Char × Float))
    (horder : order.Perm ((start limits).run edits).environment.entries) :
    (start limits).run
        (.formula ((start limits).run edits).formula :: order.map Edit.restore) =
      (start limits).run edits :=
  (coherent_run limits edits).run_restore horder

/-- A session that has forgotten a value and holds a zero below zero, with its values typed last
name first. -/
theorem run_restore_eq_reversed :
    [('y', 2.5), ('x', -0.0)].Perm
        ((start {}).run [.formula "x+z", .value 'z' "7", .value 'x' "-0", .formula "y/x",
          .value 'y' "2.5"]).environment.entries ∧
      (start {}).run
          (.formula ((start {}).run [.formula "x+z", .value 'z' "7", .value 'x' "-0",
              .formula "y/x", .value 'y' "2.5"]).formula ::
            [('y', 2.5), ('x', -0.0)].map Edit.restore) =
        (start {}).run [.formula "x+z", .value 'z' "7", .value 'x' "-0", .formula "y/x",
          .value 'y' "2.5"] :=
  have horder : [('y', 2.5), ('x', -0.0)].Perm
      ((start {}).run [.formula "x+z", .value 'z' "7", .value 'x' "-0", .formula "y/x",
        .value 'y' "2.5"]).environment.entries := by decide +kernel
  ⟨horder, run_restore_eq {} _ _ horder⟩

end Session

end Formulary

import Formulary.Environment
import Formulary.Proofs.Doubles

/-!
# What the values of an environment are

An environment is known by its look-ups. Here are its names, its entries and the operations on it in
terms of look-ups, and what keeps its values finite.

* `env.Finite`: every value is a finite number.

Results.
* The environment of a formula has the formula's names, with the values from before or 0
  (`get?_forFormula`, `names_forFormula`).
* A typed text has a finite value (`isFinite_enteredValue`), so that setting a name and moving on to
  another formula keep values finite (`finite_setText`, `finite_forFormula`).
-/

namespace Formulary

/-! ## 1. Entries and names -/

theorem Entries.find?_eq_some_iff {entries : List (Char × Float)} (h : Sorted entries) {name : Char}
    {value : Float} : find? name entries = some value ↔ (name, value) ∈ entries := by
  induction entries with
  | nil => simp [find?]
  | cons entry rest ih =>
    obtain ⟨hlt, hrest⟩ := List.pairwise_cons.1 h
    obtain ⟨c, v⟩ := entry
    by_cases hname : name = c
    · subst hname
      -- the names after it are greater
      have hnot : (name, value) ∉ rest := fun hmem =>
        absurd (hlt (name, value) hmem) (Nat.lt_irrefl _)
      simp [find?, hnot, eq_comm]
    · simp [find?, hname, ih hrest]

namespace Environment

variable {env : Environment} {name : Char} {value : Float}

theorem get?_eq_some_iff : env.get? name = some value ↔ (name, value) ∈ env.entries :=
  Entries.find?_eq_some_iff env.sorted

theorem mem_names : name ∈ env.names ↔ (env.get? name).isSome = true := by
  rw [Option.isSome_iff_exists, names, List.mem_map]
  constructor
  · rintro ⟨⟨c, v⟩, hmem, rfl⟩
    exact ⟨v, get?_eq_some_iff.2 hmem⟩
  · rintro ⟨v, hget⟩
    exact ⟨(name, v), get?_eq_some_iff.1 hget, rfl⟩

theorem nodup_names (env : Environment) : env.names.Nodup := by
  refine List.pairwise_map.2 (env.sorted.imp fun hlt heq => ?_)
  rw [heq] at hlt
  exact Nat.lt_irrefl _ hlt

theorem get_set (env : Environment) (name other : Char) (value : Float) :
    (env.set name value).get other = if other = name then value else env.get other := by
  rw [get, get?_set]
  split <;> rfl

/-- Setting a name that has a value keeps the names. -/
theorem names_set (h : env.contains name = true) (value : Float) :
    (env.set name value).names.Perm env.names := by
  refine (List.perm_ext_iff_of_nodup (nodup_names _) (nodup_names _)).2 fun other => ?_
  rw [mem_names, mem_names, get?_set]
  split
  · next heq =>
    subst heq
    exact iff_of_true rfl h
  · exact Iff.rfl

/-! ## 2. The environment of a formula -/

/-- Each name of the list is set to its value; the others keep theirs. -/
theorem get?_foldl_set (names : List Char) (f : Char → Float) (env : Environment) (name : Char) :
    (names.foldl (fun env c => env.set c (f c)) env).get? name =
      if name ∈ names then some (f name) else env.get? name := by
  induction names generalizing env with
  | nil => rfl
  | cons c rest ih =>
    rw [List.foldl_cons, ih, get?_set]
    by_cases hname : name = c
    · simp [hname]
    · simp [hname]

theorem get?_forFormula (formula : String) (previous : Environment) (name : Char) :
    (forFormula formula previous).get? name =
      if name ∈ variableNames formula then some (previous.get name) else none := by
  rw [forFormula, ofList, List.foldl_map]
  exact get?_foldl_set (variableNames formula) previous.get empty name

theorem names_forFormula (formula : String) (previous : Environment) :
    (forFormula formula previous).names.Perm (variableNames formula) := by
  have hnodup : (variableNames formula).Nodup := nodup_firstAppearances _
  refine (List.perm_ext_iff_of_nodup (nodup_names _) hnodup).2 fun name => ?_
  rw [mem_names, get?_forFormula]
  split
  · next hmem => exact iff_of_true rfl hmem
  · next hmem => exact iff_of_false Bool.false_ne_true hmem

/-! ## 3. Finite values -/

/-- Every value is a finite number. -/
def Finite (env : Environment) : Prop :=
  ∀ entry ∈ env.entries, entry.2.isFinite = true

theorem finite_iff : env.Finite ↔ ∀ name value, env.get? name = some value →
    value.isFinite = true := by
  constructor
  · intro h name value hget
    exact h (name, value) (get?_eq_some_iff.1 hget)
  · rintro h ⟨name, value⟩ hmem
    exact h name value (get?_eq_some_iff.2 hmem)

theorem isFinite_zero : (0 : Float).isFinite = true := by
  decide +kernel

theorem isFinite_get (h : env.Finite) (name : Char) : (env.get name).isFinite = true := by
  unfold get
  cases hget : env.get? name with
  | none => exact isFinite_zero
  | some value => exact finite_iff.1 h name value hget

theorem finite_set (h : env.Finite) (hvalue : value.isFinite = true) (name : Char) :
    (env.set name value).Finite := by
  refine finite_iff.2 fun other v hget => ?_
  rw [get?_set] at hget
  split at hget
  · cases hget
    exact hvalue
  · exact finite_iff.1 h other v hget

theorem finite_forFormula (h : env.Finite) (formula : String) :
    (forFormula formula env).Finite := by
  refine finite_iff.2 fun name value hget => ?_
  rw [get?_forFormula] at hget
  split at hget
  · cases hget
    exact isFinite_get h name
  · cases hget

/-- A typed text has a finite value. -/
theorem isFinite_enteredValue (text : String) : (enteredValue text).isFinite = true := by
  unfold enteredValue
  split
  · next x _ _ =>
    cases hfin : x.finite? with
    | none => exact isFinite_zero
    | some v =>
      obtain ⟨h, rfl⟩ := Number.finite?_eq_some_iff.1 hfin
      exact h
  · exact isFinite_zero

theorem finite_setText (h : env.Finite) (name : Char) (text : String) :
    (env.setText name text).Finite :=
  finite_set h (isFinite_enteredValue text) name

end Environment

end Formulary

import Formulary.Expr.Variables
import Formulary.Number.Numeral
import Formulary.Text.Blank

/-!
# The values of variables

An environment gives values to some names. It is a list of names and values in the order of the
names' code points, so environments that give the same values are equal (`Environment.ext_get?`).

* `env.get? name`, `env.get name`: the value of a name; without one it is 0.
* `env.set name value`: gives the name this value.
* `Environment.forFormula formula env`: the environment of an edited formula. Its names are those of
  the formula, and those that `env` has keep their values.
* `enteredValue text`: the value of a text that a person typed. A number at its start counts,
  anything else is 0.
-/

namespace Formulary

/-! ## 1. Sorted lists -/

namespace Entries

/-- The value that goes with the name. -/
def find? (name : Char) : List (Char × Float) → Option Float
  | [] => none
  | (c, v) :: rest => if name = c then some v else find? name rest

/-- Puts the name with this value at its place. -/
def insert (name : Char) (value : Float) : List (Char × Float) → List (Char × Float)
  | [] => [(name, value)]
  | (c, v) :: rest =>
    if name.toNat < c.toNat then (name, value) :: (c, v) :: rest
    else if name = c then (name, value) :: rest
    else (c, v) :: insert name value rest

/-- The names increase. -/
def Sorted (entries : List (Char × Float)) : Prop :=
  entries.Pairwise fun x y => x.1.toNat < y.1.toNat

theorem mem_insert {name : Char} {value : Float} {entries : List (Char × Float)}
    {x : Char × Float} (h : x ∈ insert name value entries) : x = (name, value) ∨ x ∈ entries := by
  induction entries with
  | nil => simpa [insert] using h
  | cons y rest ih =>
    simp only [insert] at h
    split at h
    · simpa using h
    · split at h
      · rcases List.mem_cons.1 h with h | h
        · exact .inl h
        · exact .inr (List.mem_cons_of_mem _ h)
      · rcases List.mem_cons.1 h with h | h
        · exact .inr (h ▸ List.mem_cons_self)
        · exact (ih h).imp_right (List.mem_cons_of_mem _)

theorem sorted_insert {name : Char} {value : Float} {entries : List (Char × Float)}
    (h : Sorted entries) : Sorted (insert name value entries) := by
  induction entries with
  | nil => simp [Sorted, insert]
  | cons y rest ih =>
    obtain ⟨hy, hrest⟩ := List.pairwise_cons.1 h
    simp only [insert]
    split
    · rename_i hlt
      refine List.pairwise_cons.2 ⟨fun x hx => ?_, h⟩
      rcases List.mem_cons.1 hx with rfl | hx
      · exact hlt
      · exact Nat.lt_trans hlt (hy x hx)
    · rename_i hlt
      split
      · rename_i he
        exact List.pairwise_cons.2 ⟨fun x hx => he ▸ hy x hx, hrest⟩
      · rename_i hne
        refine List.pairwise_cons.2 ⟨fun x hx => ?_, ih hrest⟩
        rcases mem_insert hx with rfl | hx
        · have := mt Char.toNat_inj.1 hne
          show y.1.toNat < name.toNat
          omega
        · exact hy x hx

theorem find?_insert (name other : Char) (value : Float) (entries : List (Char × Float)) :
    find? other (insert name value entries) =
      if other = name then some value else find? other entries := by
  induction entries with
  | nil => simp [insert, find?]
  | cons y rest ih =>
    simp only [insert]
    split
    · simp [find?]
    · split
      · rename_i he
        by_cases h : other = name
        · simp [find?, h]
        · simp [find?, h, he ▸ h]
      · rename_i hne
        simp only [find?, ih]
        by_cases h : other = name
        · simp [h, hne]
        · simp [h]

theorem find?_eq_none {name : Char} (entries : List (Char × Float))
    (h : ∀ x ∈ entries, name.toNat < x.1.toNat) : find? name entries = none := by
  induction entries with
  | nil => rfl
  | cons y rest ih =>
    have hy := h y List.mem_cons_self
    have hne : name ≠ y.1 := fun e => absurd hy (by simp [e])
    simp [find?, hne, ih (fun x hx => h x (List.mem_cons_of_mem _ hx))]

/-- Sorted lists with the same values are equal. -/
theorem eq_of_find?_eq {a b : List (Char × Float)} (ha : Sorted a) (hb : Sorted b)
    (h : ∀ name, find? name a = find? name b) : a = b := by
  induction a generalizing b with
  | nil =>
    cases b with
    | nil => rfl
    | cons y rest => simpa [find?] using h y.1
  | cons x a ih =>
    obtain ⟨hx, ha⟩ := List.pairwise_cons.1 ha
    cases b with
    | nil => simpa [find?] using h x.1
    | cons y b =>
      obtain ⟨hy, hb⟩ := List.pairwise_cons.1 hb
      have hxy : x.1 = y.1 := by
        apply Classical.byContradiction
        intro hne
        rcases Nat.lt_or_gt_of_ne (mt Char.toNat_inj.1 hne) with hlt | hlt
        · have h1 := h x.1
          rw [find?_eq_none (y :: b)] at h1
          · simp [find?] at h1
          · intro z hz
            rcases List.mem_cons.1 hz with rfl | hz
            · exact hlt
            · exact Nat.lt_trans hlt (hy z hz)
        · have h1 := h y.1
          rw [find?_eq_none (x :: a)] at h1
          · simp [find?] at h1
          · intro z hz
            rcases List.mem_cons.1 hz with rfl | hz
            · exact hlt
            · exact Nat.lt_trans hlt (hx z hz)
      have hv : x.2 = y.2 := by simpa [find?, hxy] using h x.1
      have hrest : a = b := by
        refine ih ha hb fun name => ?_
        by_cases hn : name = x.1
        · rw [find?_eq_none a, find?_eq_none b]
          · intro z hz; rw [hn, hxy]; exact hy z hz
          · intro z hz; rw [hn]; exact hx z hz
        · have := h name
          simpa [find?, hn, hxy ▸ hn] using this
      rw [hrest, show x = y from Prod.ext hxy hv]

end Entries

/-! ## 2. Environments -/

/-- Values for some names, in the order of the names' code points. -/
structure Environment where
  entries : List (Char × Float)
  sorted : Entries.Sorted entries
deriving DecidableEq

namespace Environment

/-- No name has a value. -/
def empty : Environment :=
  ⟨[], List.Pairwise.nil⟩

/-- The value of the name, if it has one. -/
def get? (env : Environment) (name : Char) : Option Float :=
  Entries.find? name env.entries

/-- The value of the name; 0 if it has none. -/
def get (env : Environment) (name : Char) : Float :=
  (env.get? name).getD 0

/-- The name has a value. -/
def contains (env : Environment) (name : Char) : Bool :=
  (env.get? name).isSome

/-- Gives the name this value. -/
def set (env : Environment) (name : Char) (value : Float) : Environment :=
  ⟨Entries.insert name value env.entries, Entries.sorted_insert env.sorted⟩

/-- The names with their values, each pair in turn; the last value of a name counts. -/
def ofList (pairs : List (Char × Float)) : Environment :=
  pairs.foldl (fun env pair => env.set pair.1 pair.2) empty

/-- The names that have values, in order. -/
def names (env : Environment) : List Char :=
  env.entries.map (·.1)

/-- The number of names that have values. -/
def size (env : Environment) : Nat :=
  env.entries.length

/-- No name has a value. -/
def isEmpty (env : Environment) : Bool :=
  env.entries.isEmpty

@[simp] theorem get?_empty (name : Char) : empty.get? name = none := rfl

theorem get?_set (env : Environment) (name other : Char) (value : Float) :
    (env.set name value).get? other = if other = name then some value else env.get? other :=
  Entries.find?_insert name other value env.entries

/-- Environments that give the same values are equal. -/
theorem ext_get? {a b : Environment} (h : ∀ name, a.get? name = b.get? name) : a = b := by
  cases a with
  | mk x hx =>
    cases b with
    | mk y hy =>
      obtain rfl := Entries.eq_of_find?_eq hx hy h
      rfl

/-- The environment of a formula: each of its names has a value, the one from `previous` or 0. -/
def forFormula (formula : String) (previous : Environment) : Environment :=
  ofList ((variableNames formula).map fun name => (name, previous.get name))

end Environment

/-! ## 3. Values typed by a person -/

/-- The number at the start of the text, blanks at its ends aside; 0 if there is none or it is
beyond the largest double. -/
def enteredValue (text : String) : Float :=
  match Number.leading? (Text.trim text.toList) with
  | some (x, _) => x.finite?.getD 0
  | none => 0

/-- Gives the name the value of a typed text. -/
def Environment.setText (env : Environment) (name : Char) (text : String) : Environment :=
  env.set name (enteredValue text)

end Formulary

import Formulary.Evaluation
import Formulary.Expr.Variables
import Formulary.Proofs.Environments
import Formulary.Proofs.Parsing
import Mathlib.Control.Monad.Basic
import Mathlib.Data.List.Basic

/-!
# The variables of an expression

An expression is parsed from tokens and evaluated in an environment. On both sides its variables are
the same letters.

* `role.letters`: the letters of the expression that a role begins with.
* `addName names c`, `e.addNames names`: the names after one more, and after those that are met on
  the way through an expression.

Results.
* The letters among the tokens are those of the expression, in order and with repetitions
  (`letters_of_parse`).
* Names are listed by adding each when it is met first, in tokens as in an expression
  (`foldl_addName`, `addNames_eq_foldl`).
* A formula has the variables of its expression, each once, in the order in which they come first
  among the tokens (`variableNames_eq_of_parse`).
* A value depends on the expression's own variables alone (`evaluate_congr`,
  `evaluate_own_variables`).
-/

namespace Formulary

/-! ## 1. Letters of tokens -/

/-- The letters of the expression that something in this role begins with: the tail of a chain
begins with the operands before it. -/
def Role.letters : Role → List Char
  | tail _ left => left.letters
  | _ => []

namespace VariablesLemmas

theorem letters_operand (c : Chain) : c.operand.letters = [] := by
  cases c <;> rfl

/-- The letters of what is between parentheses. -/
theorem filterMap_letter?_closed (s : List Token) :
    (s ++ [Token.closeParen]).filterMap Token.letter? = s.filterMap Token.letter? := by
  rw [List.filterMap_append]
  exact List.append_nil _

end VariablesLemmas

open VariablesLemmas

/-- Tokens in a role add their letters to those before them. -/
theorem letters_of_derives {role : Role} {tokens : List Token} {e : Expr} {n : Nat}
    (h : Derives role tokens e n) :
    role.letters ++ tokens.filterMap Token.letter? = e.letters := by
  induction h with
  | @chain c s t first e m n _ _ ihs iht =>
    rw [letters_operand, List.nil_append] at ihs
    rw [List.filterMap_append, ihs]
    exact iht
  | done => exact List.append_nil _
  | @join c left right e op s t m n _ _ _ ihs iht =>
    rw [letters_operand, List.nil_append] at ihs
    show left.letters ++ (s ++ t).filterMap Token.letter? = e.letters
    rw [List.filterMap_append, ihs, ← List.append_assoc]
    exact iht
  | base _ ih => exact ih
  | @raise s t base exponent m n _ _ ihs iht =>
    show (s ++ .operator .power :: t).filterMap Token.letter? = base.letters ++ exponent.letters
    rw [← ihs, ← iht]
    exact List.filterMap_append
  | @group s e n _ ih =>
    show (s ++ [Token.closeParen]).filterMap Token.letter? = e.letters
    rw [filterMap_letter?_closed]
    exact ih
  | @call f s e n _ ih =>
    show (s ++ [Token.closeParen]).filterMap Token.letter? = e.letters
    rw [filterMap_letter?_closed]
    exact ih
  | letter => rfl
  | number _ _ => rfl

/-- The letters among the tokens are those of the expression. -/
theorem letters_of_parse {tokens : List Token} {e : Expr} (h : parse tokens = .ok e) :
    tokens.filterMap Token.letter? = e.letters := by
  obtain ⟨n, hd⟩ := isFormula_of_parse h
  exact letters_of_derives hd

/-- The variables of a text are the letters of the expression that it denotes. -/
theorem mem_variableNames_iff_of_parseFormula {formula : String} {e : Expr}
    (h : parseFormula formula = .ok e) {name : Char} :
    name ∈ variableNames formula ↔ name ∈ e.letters := by
  rw [variableNames, tokenVariables, mem_firstAppearances, letters_of_parse h]

/-! ## 2. Names -/

/-- The names after one more, which is added at the end if it is not there. -/
def addName (names : List Char) (c : Char) : List Char :=
  if c ∈ names then names else names ++ [c]

/-- The names after those of the variables that are met from left to right. -/
def Expr.addNames (names : List Char) : Expr → List Char
  | number _ => names
  | var name => addName names name
  | call _ argument => argument.addNames names
  | binary _ left right => right.addNames (left.addNames names)

/-- Adding characters one after the other adds their first appearances, but for those that are there
already. -/
theorem foldl_addName (names s : List Char) :
    s.foldl addName names = names ++ (firstAppearances s).filter (· ∉ names) := by
  induction s generalizing names with
  | nil => exact (List.append_nil names).symm
  | cons c s ih =>
    rw [List.foldl_cons, ih, addName, firstAppearances]
    by_cases hc : c ∈ names
    · rw [if_pos hc, List.filter_cons_of_neg (by simpa using hc), List.filter_filter]
      refine congrArg _ (List.filter_congr fun d _ => ?_)
      by_cases hd : d = c <;> simp [hd, hc]
    · rw [if_neg hc, List.filter_cons_of_pos (by simpa using hc), List.filter_filter,
        List.append_assoc, List.singleton_append]
      refine congrArg (names ++ c :: ·) (List.filter_congr fun d _ => ?_)
      by_cases hd : d = c <;> simp [hd]

theorem foldl_addName_nil (s : List Char) : s.foldl addName [] = firstAppearances s := by
  rw [foldl_addName, List.nil_append, List.filter_eq_self]
  exact fun c _ => decide_eq_true List.not_mem_nil

/-- The names in an expression are added from left to right. -/
theorem addNames_eq_foldl (e : Expr) (names : List Char) :
    e.addNames names = e.letters.foldl addName names := by
  induction e generalizing names with
  | number _ => rfl
  | var _ => rfl
  | call _ argument ih => exact ih names
  | binary _ left right ihl ihr =>
    rw [Expr.addNames, ihl, ihr, Expr.letters, List.foldl_append]

/-- The names among tokens are in the order in which they come first. -/
theorem pairwise_tokenVariables (tokens : List Token) :
    (tokenVariables tokens).Pairwise fun a b =>
      tokens.idxOf (.letter a) < tokens.idxOf (.letter b) := by
  unfold tokenVariables
  induction tokens with
  | nil => exact .nil
  | cons t tokens ih =>
    -- a token before them that is none of the names leaves them in order
    have hback {s : List Char} (hs : ∀ a ∈ s, t ≠ .letter a)
        (h : s.Pairwise fun a b => tokens.idxOf (.letter a) < tokens.idxOf (.letter b)) :
        s.Pairwise fun a b =>
          (t :: tokens).idxOf (.letter a) < (t :: tokens).idxOf (.letter b) := by
      refine h.imp_of_mem fun ha hb hlt => ?_
      rw [List.idxOf_cons_ne _ (hs _ ha), List.idxOf_cons_ne _ (hs _ hb)]
      exact Nat.succ_lt_succ hlt
    cases t with
    | letter c =>
      show (firstAppearances (c :: tokens.filterMap Token.letter?)).Pairwise _
      rw [firstAppearances]
      have hne : ∀ a ∈ (firstAppearances (tokens.filterMap Token.letter?)).filter (· != c),
          Token.letter c ≠ .letter a := by
        intro a ha heq
        cases heq
        simp at ha
      refine List.pairwise_cons.2 ⟨fun b hb => ?_, hback hne (ih.filter _)⟩
      rw [List.idxOf_cons_self, List.idxOf_cons_ne _ (hne b hb)]
      exact Nat.succ_pos _
    | _ => exact hback (fun _ _ => Token.noConfusion) ih

theorem mem_tokenVariables {c : Char} {tokens : List Token} :
    c ∈ tokenVariables tokens ↔ .letter c ∈ tokens := by
  rw [tokenVariables, mem_firstAppearances, List.mem_filterMap]
  constructor
  · rintro ⟨t, ht, hc⟩
    cases t <;> cases hc
    exact ht
  · exact fun h => ⟨_, h, rfl⟩

/-- A formula has the variables of its expression, whether they are looked for among the tokens or
in the tree. They are the letters among the tokens, each once, in the order in which they come
first. The same names are added one after the other, on the way through the tokens and from left to
right through the expression. -/
theorem variableNames_eq_of_parse :
    (∀ tokens e, parse tokens = .ok e →
      tokenVariables tokens = e.variableNames ∧
      (tokens.filterMap Token.letter?).foldl addName [] = e.addNames [] ∧
      e.addNames [] = e.variableNames ∧
      e.variableNames.Nodup ∧
      (∀ c, c ∈ e.variableNames ↔ .letter c ∈ tokens) ∧
      e.variableNames.Pairwise fun a b =>
        tokens.idxOf (.letter a) < tokens.idxOf (.letter b)) ∧
    ∀ formula e, parseFormula formula = .ok e → variableNames formula = e.variableNames := by
  have hnames : ∀ tokens e, parse tokens = .ok e → tokenVariables tokens = e.variableNames := by
    intro tokens e h
    rw [tokenVariables, letters_of_parse h, Expr.variableNames]
  refine ⟨fun tokens e h => ?_, fun formula e h => hnames _ e h⟩
  have hadded : e.addNames [] = e.variableNames := by
    rw [addNames_eq_foldl, foldl_addName_nil, Expr.variableNames]
  refine ⟨hnames tokens e h, ?_, hadded, nodup_firstAppearances _, fun c => ?_, ?_⟩
  · rw [addNames_eq_foldl, letters_of_parse h]
  · rw [← hnames tokens e h, mem_tokenVariables]
  · rw [← hnames tokens e h]
    exact pairwise_tokenVariables tokens

/-- In `b*(a-b)^ln(c)`, which is grouped anew, the names are `b`, `a` and `c`. -/
theorem variableNames_eq_of_parse_regrouped :
    parseFormula "b*(a-b)^ln(c)" = .ok (.binary .multiply (.var 'b')
        (.binary .power (.binary .subtract (.var 'a') (.var 'b'))
          (.call .natural (.var 'c')))) ∧
      variableNames "b*(a-b)^ln(c)" = ['b', 'a', 'c'] ∧
      tokenVariables (tokenize "b*(a-b)^ln(c)") = ['b', 'a', 'c'] := by
  have h : parse (tokenize "b*(a-b)^ln(c)") = .ok (.binary .multiply (.var 'b')
      (.binary .power (.binary .subtract (.var 'a') (.var 'b')) (.call .natural (.var 'c')))) := by
    decide +kernel
  exact ⟨h, variableNames_eq_of_parse.2 _ _ h, (variableNames_eq_of_parse.1 _ _ h).1⟩

/-! ## 3. Values -/

/-- A value depends on the expression's own variables alone. -/
theorem evaluate_congr {limits : Limits} {env env' : Environment} {e : Expr}
    (h : ∀ name ∈ e.letters, env.get name = env'.get name) :
    e.evaluate limits env = e.evaluate limits env' := by
  induction e with
  | number _ => rfl
  | var name =>
    show limits.check _ = limits.check _
    rw [h name (List.mem_singleton_self name)]
  | call function argument ih =>
    rw [Expr.evaluate, Expr.evaluate, ih h]
  | binary op left right ihl ihr =>
    have hl := ihl fun name hname => h name (List.mem_append_left _ hname)
    have hr := ihr fun name hname => h name (List.mem_append_right _ hname)
    rw [Expr.evaluate, Expr.evaluate, hl, hr]

/-- Evaluation sees an expression's own variables alone. The environment of its formula has these
and no others, with 0 where there was no value before, and gives the same result as the environment
before. -/
theorem evaluate_own_variables (limits : Limits) (e : Expr) :
    (∀ env env' : Environment, (∀ name ∈ e.variableNames, env.get name = env'.get name) →
      e.evaluate limits env = e.evaluate limits env') ∧
    ∀ formula previous, parseFormula formula = .ok e →
      (∀ name, (Environment.forFormula formula previous).get? name =
        if name ∈ e.variableNames then some (previous.get name) else none) ∧
      e.evaluate limits (.forFormula formula previous) = e.evaluate limits previous := by
  refine ⟨fun env env' h => ?_, fun formula previous h => ⟨fun name => ?_, ?_⟩⟩
  · exact evaluate_congr fun name hname => h name (mem_firstAppearances.2 hname)
  · rw [Environment.get?_forFormula, Expr.variableNames]
    simp only [mem_variableNames_iff_of_parseFormula h, mem_firstAppearances]
  · refine evaluate_congr fun name hname => ?_
    have hmem := (mem_variableNames_iff_of_parseFormula h).2 hname
    rw [Environment.get, Environment.get?_forFormula, if_pos hmem, Option.getD_some]

namespace VariablesLemmas

/-- A value for `x`, and one for a name that is not in `x*y+2`. -/
def withOther : Environment :=
  .ofList [('q', Number.nan), ('x', 3)]

/-- The values of `x` and `y`. -/
def withZero : Environment :=
  .ofList [('x', 3), ('y', 0)]

end VariablesLemmas

/-- In `x*y+2` the name `q` is dropped and `y`, which had no value, is 0. -/
theorem evaluate_own_variables_dropped :
    ∃ e : Expr, parseFormula "x*y+2" = .ok e ∧
      (∀ name ∈ e.variableNames, withOther.get name = withZero.get name) ∧
      e.evaluate {} withOther = e.evaluate {} withZero ∧
      (Environment.forFormula "x*y+2" withOther).get? 'y' = some 0 ∧
      e.evaluate {} (.forFormula "x*y+2" withOther) = e.evaluate {} withOther ∧
      e.evaluate {} withOther = .ok 2 := by
  have hparse : parseFormula "x*y+2" =
      .ok (.binary .add (.binary .multiply (.var 'x') (.var 'y')) (.number 2)) := by
    decide +kernel
  have hsame : ∀ name ∈ ['x', 'y'], withOther.get name = withZero.get name :=
    List.forall_mem_cons.2 ⟨by decide +kernel, List.forall_mem_singleton.2 (by decide +kernel)⟩
  have hvalues := (evaluate_own_variables {} _).2 "x*y+2" withOther hparse
  exact ⟨_, hparse, hsame, (evaluate_own_variables {} _).1 _ _ hsame, hvalues.1 'y', hvalues.2,
    by decide +kernel⟩

end Formulary

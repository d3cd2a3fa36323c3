import Mathlib.Control.Monad.Basic
import Formulary.Proofs.Parsing

/-!
# What a parse error blames

An error of the parser, apart from an exceeded bound, is about one place between the tokens. What is
wrong there shows from the tokens alone: from the last one before the place, the parentheses that
are open, and the tokens after it.

* `placeAfter before tokens`: what has to come after the tokens.
* `openings before tokens`: the parentheses that are open after the tokens, innermost first.
* `Blames place open rest error`: where `place` has to come, `rest` gives the error.

Results.
* One error is blamed on a place (`Blames.unique`).
* A failure of the grammar is blamed on the place where it is (`Fails.blames`).
* A parse error is blamed on the first place at which no formula goes on (`parse_error_blames`).
-/

namespace Formulary

open GrammarLemmas FailureLemmas

/-! ## 1. Places -/

/-- What has to come next: an operand, the argument of a logarithm, or an operator or an end. -/
inductive Place
  | operand
  | argument (f : Logarithm)
  | operator

/-- What has to come after the token. -/
def Token.place : Token → Place
  | operator _ | openParen => .operand
  | logarithm f => .argument f
  | literal _ | letter _ | closeParen => .operator

/-- What has to come after the tokens, where `before` has to come if there are none. -/
def placeAfter (before : Place) (tokens : List Token) : Place :=
  (tokens.getLast?.map Token.place).getD before

/-- The parentheses that are open after the tokens, innermost first: that of a logarithm, or that of
a group. The parentheses `before` were open already. -/
def openings (before : List (Option Logarithm)) : List Token → List (Option Logarithm)
  | [] => before
  | .logarithm f :: .openParen :: rest => openings (some f :: before) rest
  | .openParen :: rest => openings (none :: before) rest
  | .closeParen :: rest => openings before.tail rest
  | _ :: rest => openings before rest

/-- In the place, with these parentheses open, the tokens that come give the error. -/
inductive Blames : Place → List (Option Logarithm) → List Token → ParseError → Prop
  | argument {f : Logarithm} {opened : List (Option Logarithm)} {rest : List Token} :
      Blames (.argument f) opened rest (.missingOpenParen f)
  | operand {opened : List (Option Logarithm)} {rest : List Token} {error : ParseError} :
      Refuses rest error → Blames .operand opened rest error
  | trailing {t : Token} {rest : List Token} : Blames .operator [] (t :: rest) (.trailingToken t)
  | call {f : Logarithm} {opened : List (Option Logarithm)} {rest : List Token} :
      Blames .operator (some f :: opened) rest (.missingArgumentClose f)
  | group {opened : List (Option Logarithm)} {rest : List Token} :
      Blames .operator (none :: opened) rest .missingCloseParen

theorem Refuses.unique {rest : List Token} {error error' : ParseError} (h : Refuses rest error)
    (h' : Refuses rest error') : error = error' := by
  cases h with
  | literal hno =>
    cases h' with
    | literal _ => rfl
    | large hd _ => exact absurd hd (hno _)
  | large hd _ =>
    cases h' with
    | literal hno => exact absurd hd (hno _)
    | large _ _ => rfl
  | _ =>
    cases h'
    rfl

/-- One error is blamed on a place. -/
theorem Blames.unique {place : Place} {opened : List (Option Logarithm)} {rest : List Token}
    {error error' : ParseError} (h : Blames place opened rest error)
    (h' : Blames place opened rest error') : error = error' := by
  cases h with
  | operand href =>
    cases h' with
    | operand href' => exact href.unique href'
  | _ =>
    cases h'
    rfl

/-! ## 2. Places and openings along a derivation -/

/-- What has to come where something in the role begins. -/
def Role.place : Role → Place
  | tail _ _ => .operator
  | _ => .operand

namespace BlameLemmas

theorem placeAfter_cons (before : Place) (t : Token) (ts : List Token) :
    placeAfter before (t :: ts) = placeAfter t.place ts := by
  unfold placeAfter
  rw [List.getLast?_cons]
  cases ts.getLast? <;> rfl

theorem placeAfter_append (before : Place) (s t : List Token) :
    placeAfter before (s ++ t) = placeAfter (placeAfter before s) t := by
  induction s generalizing before with
  | nil => rfl
  | cons x s ih => rw [List.cons_append, placeAfter_cons, placeAfter_cons, ih]

theorem operand_place (c : Chain) : c.operand.place = .operand := by
  cases c <;> rfl

/-- After something in a role comes an operator or an end. -/
theorem placeAfter_of_derives {role : Role} {s : List Token} {e : Expr} {n : Nat}
    (h : Derives role s e n) : placeAfter role.place s = .operator := by
  induction h with
  | @chain c _ _ _ _ _ _ _ _ ihs iht =>
    rw [operand_place] at ihs
    rw [placeAfter_append]
    show placeAfter (placeAfter .operand _) _ = _
    rw [ihs]
    exact iht
  | done => rfl
  | @join c _ _ _ _ _ _ _ _ _ _ _ ihs iht =>
    rw [operand_place] at ihs
    rw [placeAfter_cons, placeAfter_append]
    show placeAfter (placeAfter .operand _) _ = _
    rw [ihs]
    exact iht
  | base _ ih => exact ih
  | raise _ _ _ iht =>
    rw [placeAfter_append, placeAfter_cons]
    exact iht
  | group _ _ =>
    rw [placeAfter_cons, placeAfter_append]
    rfl
  | call _ _ =>
    rw [placeAfter_cons, placeAfter_cons, placeAfter_append]
    rfl
  | letter => rfl
  | number _ _ => rfl

/-- Something in a role closes the parentheses that it opens. -/
theorem openings_of_derives {role : Role} {s : List Token} {e : Expr} {n : Nat}
    (h : Derives role s e n) (opened : List (Option Logarithm)) (rest : List Token) :
    openings opened (s ++ rest) = openings opened rest := by
  induction h generalizing opened rest with
  | chain _ _ ihs iht => rw [List.append_assoc, ihs, iht]
  | done => rfl
  | join _ _ _ ihs iht =>
    show openings opened (_ ++ _ ++ rest) = _
    rw [List.append_assoc, ihs, iht]
  | base _ ih => exact ih opened rest
  | raise _ _ ihs iht =>
    rw [List.append_assoc, ihs]
    exact iht opened rest
  | group _ ih =>
    show openings (none :: opened) (_ ++ [.closeParen] ++ rest) = _
    rw [List.append_assoc, ih]
    rfl
  | @call f _ _ _ _ ih =>
    show openings (some f :: opened) (_ ++ [.closeParen] ++ rest) = _
    rw [List.append_assoc, ih]
    rfl
  | letter => rfl
  | number _ _ => rfl

/-- After the operands of a chain comes what comes after operands. -/
theorem placeAfter_operand_append {c : Chain} {s : List Token} {e : Expr} {n : Nat}
    (h : Derives c.operand s e n) (t : List Token) :
    placeAfter .operand (s ++ t) = placeAfter .operator t := by
  have hplace := placeAfter_of_derives h
  rw [operand_place] at hplace
  rw [placeAfter_append, hplace]

theorem placeAfter_sum {s : List Token} {e : Expr} {n : Nat} (h : Derives (.chain .sum) s e n) :
    placeAfter .operand s = .operator :=
  placeAfter_of_derives h

theorem openings_sum {s : List Token} {e : Expr} {n : Nat} (h : Derives (.chain .sum) s e n)
    (opened : List (Option Logarithm)) : openings opened s = opened := by
  have hopen := openings_of_derives h opened []
  rwa [List.append_nil] at hopen

end BlameLemmas

open BlameLemmas

/-- A failure is blamed on the place where it is. -/
theorem Fails.blames {role : Role} {pre rest : List Token} {error : ParseError}
    (h : Fails role pre rest error) (opened : List (Option Logarithm)) :
    Blames (placeAfter role.place pre) (openings opened pre) rest error := by
  -- what is derived before the failure closes its parentheses and ends in an operand, so the part
  -- that fails begins as in its own role
  induction h generalizing opened with
  | @first c _ _ _ _ ih =>
    rw [operand_place] at ih
    exact ih opened
  | tail hs _ ih =>
    rw [openings_of_derives hs]
    show Blames (placeAfter .operand _) _ _ _
    rw [placeAfter_operand_append hs]
    exact ih opened
  | @right c _ _ _ _ _ _ _ ih =>
    rw [operand_place] at ih
    rw [placeAfter_cons]
    exact ih opened
  | @join c _ _ _ s pre _ _ _ _ hs _ ih =>
    rw [placeAfter_cons]
    show Blames (placeAfter .operand _) (openings opened (s ++ pre)) _ _
    rw [placeAfter_operand_append hs, openings_of_derives hs]
    exact ih opened
  | base _ ih => exact ih opened
  | raise hs _ ih =>
    rw [placeAfter_append, placeAfter_cons, openings_of_derives hs]
    exact ih opened
  | group _ ih =>
    rw [placeAfter_cons]
    exact ih (none :: opened)
  | @call f _ _ _ _ ih =>
    rw [placeAfter_cons, placeAfter_cons]
    exact ih (some f :: opened)
  | groupClose hs _ _ =>
    rw [placeAfter_cons]
    show Blames (placeAfter .operand _) (openings (none :: opened) _) _ _
    rw [placeAfter_sum hs, openings_sum hs]
    exact .group
  | @callClose f _ _ _ _ hs _ _ =>
    rw [placeAfter_cons, placeAfter_cons]
    show Blames (placeAfter .operand _) (openings (some f :: opened) _) _ _
    rw [placeAfter_sum hs, openings_sum hs]
    exact .call
  | callOpen _ => exact .argument
  | operand href => exact .operand href

/-! ## 3. The errors of the parser -/

/-- An error is a failure of the grammar, a token too many, or an exceeded bound. -/
theorem failure_of_parse {tokens : List Token} {error : ParseError}
    (h : parse tokens = .error error) :
    error = .tooDeep ∨
      (∃ pre rest, tokens = pre ++ rest ∧ Fails (.chain .sum) pre rest error) ∨
      ∃ pre t rest e n, tokens = pre ++ t :: rest ∧ Derives (.chain .sum) pre e n ∧
        (Role.chain .sum).Ends (t :: rest) ∧ error = .trailingToken t := by
  have hread := (faithful_read maxDepth).1 tokens
  rw [ReadingLemmas.parse_eq] at h
  cases hx : (Role.chain .sum).read maxDepth tokens with
  | error error' =>
    rw [hx] at h hread
    cases h
    cases hread with
    | inl hdeep => exact .inl hdeep
    | inr hf => exact .inr (.inl hf)
  | ok r =>
    obtain ⟨e, rest⟩ := r
    rw [hx] at h hread
    obtain ⟨s, n, heq, hd, hends⟩ := hread
    cases rest with
    | nil => cases h
    | cons t rest =>
      cases h
      exact .inr (.inr ⟨s, t, rest, e, n, heq, hd, hends, rfl⟩)

/-- A parse error is about the first place at which no formula goes on: what was read before can be
completed, and with the token after it no longer can. What comes after the place, what has to come
there, and the parentheses that are open determine the error. -/
theorem parse_error_blames (tokens : List Token) (error : ParseError)
    (h : parse tokens = .error error) (hdeep : error ≠ .tooDeep) :
    ∃ pre rest, tokens = pre ++ rest ∧ Viable pre ∧
      (∀ t after, rest = t :: after → ¬ Viable (pre ++ [t])) ∧
      ∀ error', Blames (placeAfter .operand pre) (openings [] pre) rest error' ↔
        error' = error := by
  -- the cases of `Blames` exclude each other
  have determined {place opened rest} (hb : Blames place opened rest error) (error' : ParseError) :
      Blames place opened rest error' ↔ error' = error :=
    ⟨fun hb' => hb'.unique hb, fun heq => heq ▸ hb⟩
  obtain heq | ⟨pre, rest, heq, hf⟩ | ⟨pre, t, rest, e, n, heq, hd, hends, rfl⟩ :=
    failure_of_parse h
  · exact absurd heq hdeep
  · refine ⟨pre, rest, heq, hf.viable, ?_, determined (hf.blames [])⟩
    rintro t after rfl
    exact hf.not_viable
  · refine ⟨pre, t :: rest, heq, viable_of_derives hd, ?_, determined ?_⟩
    · rintro t after ⟨⟩
      exact not_viable_of_derives hd hends
    · rw [placeAfter_sum hd, openings_sum hd]
      exact .trailing

/-- In `ln(2 x)` the place is before `x`: the call of `ln` is open there. -/
theorem parse_error_blames_open_call :
    parse [.logarithm .natural, .openParen, .literal "2", .letter 'x', .closeParen] =
        .error (.missingArgumentClose .natural) ∧
      ∃ pre rest, [.logarithm .natural, .openParen, .literal "2", .letter 'x', .closeParen] =
          pre ++ rest ∧ Viable pre ∧
        (∀ t after, rest = t :: after → ¬ Viable (pre ++ [t])) ∧
        ∀ error', Blames (placeAfter .operand pre) (openings [] pre) rest error' ↔
          error' = .missingArgumentClose .natural := by
  have h : parse [.logarithm .natural, .openParen, .literal "2", .letter 'x', .closeParen] =
      .error (.missingArgumentClose .natural) := by
    decide +kernel
  exact ⟨h, parse_error_blames _ _ h (by decide)⟩

end Formulary

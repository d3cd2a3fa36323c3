import Formulary.Expr.Parse
import Formulary.Proofs.Grammar

/-!
# Where tokens leave the grammar

`Fails role pre rest error`: reading something in this role gets as far as `pre` and cannot go on
with `rest`, for the reason that `error` names. Like the grammar it knows no bounds; it follows the
derivations up to the place where one breaks off.

* `Refuses rest error`: no factor begins with `rest`.
* `Viable tokens`: more tokens can make a formula of these.

Results.
* What was read before a failure can be completed (`Fails.completes`).
* Nothing that begins with the token after it can be (`Fails.blocks`).
-/

namespace Formulary

open GrammarLemmas

/-! ## 1. Failures -/

/-- No factor begins with these tokens, for the reason that the error names. -/
inductive Refuses : List Token → ParseError → Prop
  | empty : Refuses [] .unexpectedEnd
  | operator {op : Operator} {rest : List Token} :
      Refuses (.operator op :: rest) (.unexpectedToken (.operator op))
  | closeParen {rest : List Token} : Refuses (.closeParen :: rest) (.unexpectedToken .closeParen)
  | literal {text : String} {rest : List Token} :
      (∀ d, ¬ Number.IsNumeral text.toList d) →
      Refuses (.literal text :: rest) (.invalidLiteral text)
  | large {text : String} {d : Number.Decimal} {rest : List Token} :
      Number.IsNumeral text.toList d → (d.toFloat false).isFinite = false →
      Refuses (.literal text :: rest) (.numberTooLarge text)

/-- Reading in the role gets as far as `pre`, and `rest` does not go on. -/
inductive Fails : Role → (pre rest : List Token) → ParseError → Prop
  | first {c : Chain} {pre rest : List Token} {error : ParseError} :
      Fails c.operand pre rest error → Fails (.chain c) pre rest error
  | tail {c : Chain} {s pre rest : List Token} {first : Expr} {n : Nat} {error : ParseError} :
      Derives c.operand s first n → Fails (.tail c first) pre rest error →
      Fails (.chain c) (s ++ pre) rest error
  | right {c : Chain} {left : Expr} {op : Operator} {pre rest : List Token} {error : ParseError} :
      c.joins op = true → Fails c.operand pre rest error →
      Fails (.tail c left) (.operator op :: pre) rest error
  | join {c : Chain} {left right : Expr} {op : Operator} {s pre rest : List Token} {n : Nat}
      {error : ParseError} :
      c.joins op = true → Derives c.operand s right n →
      Fails (.tail c (.binary op left right)) pre rest error →
      Fails (.tail c left) (.operator op :: (s ++ pre)) rest error
  | base {pre rest : List Token} {error : ParseError} :
      Fails .factor pre rest error → Fails .power pre rest error
  | raise {s pre rest : List Token} {base : Expr} {n : Nat} {error : ParseError} :
      Derives .factor s base n → Fails .power pre rest error →
      Fails .power (s ++ .operator .power :: pre) rest error
  | group {pre rest : List Token} {error : ParseError} :
      Fails (.chain .sum) pre rest error → Fails .factor (.openParen :: pre) rest error
  | call {f : Logarithm} {pre rest : List Token} {error : ParseError} :
      Fails (.chain .sum) pre rest error →
      Fails .factor (.logarithm f :: .openParen :: pre) rest error
  | groupClose {s rest : List Token} {e : Expr} {n : Nat} :
      Derives (.chain .sum) s e n → (Role.chain .sum).Ends rest → rest.head? ≠ some .closeParen →
      Fails .factor (.openParen :: s) rest .missingCloseParen
  | callClose {f : Logarithm} {s rest : List Token} {e : Expr} {n : Nat} :
      Derives (.chain .sum) s e n → (Role.chain .sum).Ends rest → rest.head? ≠ some .closeParen →
      Fails .factor (.logarithm f :: .openParen :: s) rest (.missingArgumentClose f)
  | callOpen {f : Logarithm} {rest : List Token} :
      rest.head? ≠ some .openParen → Fails .factor [.logarithm f] rest (.missingOpenParen f)
  | operand {rest : List Token} {error : ParseError} :
      Refuses rest error → Fails .factor [] rest error

/-- More tokens can make a formula of these. -/
def Viable (tokens : List Token) : Prop :=
  ∃ more e, IsFormula (tokens ++ more) e

/-! ## 2. What was read can be completed -/

/-- More tokens can make something in the role of these. -/
def Role.Completable (role : Role) (tokens : List Token) : Prop :=
  ∃ more e n, Derives role (tokens ++ more) e n

namespace FailureLemmas

variable {s pre : List Token} {e left : Expr} {n : Nat}

theorem completable_first {c : Chain} (h : c.operand.Completable pre) :
    (Role.chain c).Completable pre := by
  obtain ⟨more, e, n, hd⟩ := h
  exact ⟨more, e, n, hd.alone⟩

theorem completable_tail {c : Chain} (hs : Derives c.operand s left n)
    (h : (Role.tail c left).Completable pre) : (Role.chain c).Completable (s ++ pre) := by
  obtain ⟨more, e, m, hd⟩ := h
  refine ⟨more, e, max n m, ?_⟩
  rw [List.append_assoc]
  exact .chain hs hd

theorem completable_right {c : Chain} {op : Operator} (hop : c.joins op = true)
    (h : c.operand.Completable pre) : (Role.tail c left).Completable (.operator op :: pre) := by
  obtain ⟨more, e, n, hd⟩ := h
  refine ⟨more, .binary op left e, max n 0, ?_⟩
  have hjoin : Derives (.tail c left) (.operator op :: ((pre ++ more) ++ [])) _ _ :=
    .join hop hd .done
  rwa [List.append_nil] at hjoin

theorem completable_join {c : Chain} {op : Operator} (hop : c.joins op = true)
    (hs : Derives c.operand s e n) (h : (Role.tail c (.binary op left e)).Completable pre) :
    (Role.tail c left).Completable (.operator op :: (s ++ pre)) := by
  obtain ⟨more, e', m, hd⟩ := h
  refine ⟨more, e', max n m, ?_⟩
  rw [List.cons_append, List.append_assoc]
  exact .join hop hs hd

theorem completable_raise (hs : Derives .factor s e n) (h : Role.power.Completable pre) :
    Role.power.Completable (s ++ .operator .power :: pre) := by
  obtain ⟨more, e', m, hd⟩ := h
  refine ⟨more, .binary .power e e', max n (m + 1), ?_⟩
  rw [List.append_assoc]
  exact .raise hs hd

theorem completable_group (h : (Role.chain .sum).Completable pre) :
    Role.factor.Completable (.openParen :: pre) := by
  obtain ⟨more, e, n, hd⟩ := h
  refine ⟨more ++ [.closeParen], e, n + 1, ?_⟩
  rw [List.cons_append, ← List.append_assoc]
  exact .group hd

theorem completable_call (f : Logarithm) (h : (Role.chain .sum).Completable pre) :
    Role.factor.Completable (.logarithm f :: .openParen :: pre) := by
  obtain ⟨more, e, n, hd⟩ := h
  refine ⟨more ++ [.closeParen], .call f e, n + 1, ?_⟩
  rw [List.cons_append, List.cons_append, ← List.append_assoc]
  exact .call hd

theorem completable_of_derives {role : Role} (h : Derives role s e n) : role.Completable s :=
  ⟨[], e, n, (List.append_nil s).symm ▸ h⟩

theorem derives_letter (name : Char) : Derives (.chain .sum) [.letter name] (.var name) 0 :=
  have product : Derives (.chain .product) [.letter name] (.var name) 0 :=
    .alone (.base .letter)
  .alone product

end FailureLemmas

open FailureLemmas

/-- What was read before a failure can be completed. -/
theorem Fails.completes {role : Role} {pre rest : List Token} {error : ParseError}
    (h : Fails role pre rest error) : role.Completable pre := by
  induction h with
  | first _ ih => exact completable_first ih
  | tail hs _ ih => exact completable_tail hs ih
  | right hop _ ih => exact completable_right hop ih
  | join hop hs _ ih => exact completable_join hop hs ih
  | base _ ih =>
    obtain ⟨more, e, n, hd⟩ := ih
    exact ⟨more, e, n, .base hd⟩
  | raise hs _ ih => exact completable_raise hs ih
  | group _ ih => exact completable_group ih
  | call _ ih => exact completable_call _ ih
  | groupClose hs _ _ => exact completable_group (completable_of_derives hs)
  | callClose hs _ _ => exact completable_call _ (completable_of_derives hs)
  | callOpen _ => exact ⟨[.openParen, .letter 'x', .closeParen], _, _, .call (derives_letter 'x')⟩
  | operand _ => exact ⟨[.letter 'x'], _, _, .letter⟩

/-! ## 3. What comes after is in the way -/

namespace FailureLemmas

theorem not_derives_of_refuses {t : Token} {rest more after s : List Token} {error : ParseError}
    {e : Expr} {n : Nat} (h : Refuses (t :: rest) error) (hs : Derives .factor s e n)
    (heq : s ++ after = t :: more) : False := by
  cases h with
  | operator => cases hs <;> cases heq
  | closeParen => cases hs <;> cases heq
  | literal hno =>
    cases hs with
    | number hd _ =>
      cases heq
      exact hno _ hd
    | _ => cases heq
  | large hd hinf =>
    cases hs with
    | number hd' hfin =>
      cases heq
      rw [hd.unique hd', hfin] at hinf
      cases hinf
    | _ => cases heq

/-- A failure in a tail comes after an operator that joins. -/
theorem ends_of_fails_tail {c : Chain} {left : Expr} {pre rest : List Token} {error : ParseError}
    (h : Fails (.tail c left) pre rest error) (more : List Token) :
    c.operand.Ends (pre ++ more) := by
  cases h with
  | right hop _ =>
    intro op heq
    cases heq
    exact operand_takes_of_joins hop
  | join hop _ _ =>
    intro op heq
    cases heq
    exact operand_takes_of_joins hop

end FailureLemmas

/-- Nothing in the role begins with what was read before a failure and the token after it. -/
theorem Fails.blocks {role : Role} {pre rest s more after : List Token} {t : Token}
    {error : ParseError} {e : Expr} {n : Nat} (h : Fails role pre (t :: rest) error)
    (hs : Derives role s e n) (hends : role.Ends after) (heq : s ++ after = pre ++ t :: more) :
    False := by
  generalize hrest : t :: rest = r at h
  -- what was read before the failure is read alike in `s`, which leaves the part that fails
  induction h generalizing s after e n with
  | first _ ih =>
    cases hs with
    | chain hs ht =>
      rw [List.append_assoc] at heq
      exact ih hs (ends_operand ht hends) heq hrest
  | @tail c s' pre rest first n' error hs' hf ih =>
    cases hs with
    | chain hs ht =>
      rw [List.append_assoc, List.append_assoc] at heq
      obtain ⟨-, rfl, -, htail⟩ :=
        derives_unique hs hs' heq (ends_operand ht hends) (ends_of_fails_tail hf _)
      exact ih ht ((ends_tail _).2 hends) htail hrest
  | right hop _ ih =>
    cases hs with
    | done =>
      rw [List.nil_append] at heq
      exact absurd (heq ▸ hends) (not_ends (takes_of_joins _ hop))
    | join _ hs ht =>
      simp only [List.cons_append, List.append_assoc, List.cons.injEq] at heq
      exact ih hs (ends_operand ht ((ends_tail _).1 hends)) heq.2 hrest
  | join hop hs' hf ih =>
    cases hs with
    | done =>
      rw [List.nil_append] at heq
      exact absurd (heq ▸ hends) (not_ends (takes_of_joins _ hop))
    | join _ hs ht =>
      simp only [List.cons_append, List.append_assoc, List.cons.injEq, Token.operator.injEq] at heq
      obtain ⟨rfl, heq⟩ := heq
      obtain ⟨-, rfl, -, htail⟩ := derives_unique hs hs' heq
        (ends_operand ht ((ends_tail _).1 hends)) (ends_of_fails_tail hf _)
      exact ih ht ((ends_tail _).2 ((ends_tail _).1 hends)) htail hrest
  | base hf ih =>
    cases hs with
    | base hs => exact ih hs (ends_factor _) heq hrest
    | raise hs _ =>
      rw [List.append_assoc] at heq
      exact ih hs (ends_factor _) heq hrest
  | raise hs' _ ih =>
    rw [List.append_assoc] at heq
    cases hs with
    | base hs =>
      obtain ⟨-, -, -, rfl⟩ := derives_unique hs hs' heq (ends_factor _) (ends_factor _)
      exact absurd hends (not_ends rfl)
    | raise hs ht =>
      rw [List.append_assoc] at heq
      obtain ⟨-, -, -, htail⟩ := derives_unique hs hs' heq (ends_factor _) (ends_factor _)
      exact ih ht hends (List.cons.inj htail).2 hrest
  | group _ ih =>
    cases hs with
    | group hs =>
      simp only [List.cons_append, List.append_assoc, List.cons.injEq, true_and] at heq
      exact ih hs (ends_closeParen _ _) heq hrest
    | _ => cases heq
  | call _ ih =>
    cases hs with
    | call hs =>
      simp only [List.cons_append, List.append_assoc, List.cons.injEq, true_and] at heq
      exact ih hs (ends_closeParen _ _) heq.2 hrest
    | _ => cases heq
  | groupClose hs' hends' hne =>
    subst hrest
    cases hs with
    | group hs =>
      simp only [List.cons_append, List.append_assoc, List.cons.injEq, true_and] at heq
      obtain ⟨-, -, -, htail⟩ := derives_unique hs hs' heq (ends_closeParen _ _) hends'
      cases htail
      exact hne rfl
    | _ => cases heq
  | callClose hs' hends' hne =>
    subst hrest
    cases hs with
    | call hs =>
      simp only [List.cons_append, List.append_assoc, List.cons.injEq, true_and] at heq
      obtain ⟨-, -, -, htail⟩ := derives_unique hs hs' heq.2 (ends_closeParen _ _) hends'
      cases htail
      exact hne rfl
    | _ => cases heq
  | callOpen hne =>
    subst hrest
    cases hs with
    | call hs =>
      cases heq
      exact hne rfl
    | _ => cases heq
  | operand href =>
    subst hrest
    exact not_derives_of_refuses href hs heq

/-! ## 4. Formulas -/

namespace FailureLemmas

theorem append_token (pre more : List Token) (t : Token) :
    (pre ++ [t] ++ more) ++ [] = pre ++ t :: more := by
  rw [List.append_nil, List.append_assoc]
  rfl

theorem viable_of_derives {s : List Token} {e : Expr} {n : Nat}
    (h : Derives (.chain .sum) s e n) : Viable s :=
  ⟨[], e, n, (List.append_nil s).symm ▸ h⟩

/-- Only an operator goes on with a whole formula. -/
theorem not_viable_of_derives {s rest : List Token} {e : Expr} {n : Nat} {t : Token}
    (h : Derives (.chain .sum) s e n) (hends : (Role.chain .sum).Ends (t :: rest)) :
    ¬ Viable (s ++ [t]) := by
  rintro ⟨more, e', n', hd⟩
  -- a formula that goes on would be a second derivation from the same tokens
  have hnil := (derives_unique hd h (append_token s more t) (ends_nil _) hends).2.2.2
  cases hnil

end FailureLemmas

theorem Fails.viable {pre rest : List Token} {error : ParseError}
    (h : Fails (.chain .sum) pre rest error) : Viable pre := by
  obtain ⟨more, e, n, hd⟩ := h.completes
  exact ⟨more, e, n, hd⟩

theorem Fails.not_viable {pre rest : List Token} {t : Token} {error : ParseError}
    (h : Fails (.chain .sum) pre (t :: rest) error) : ¬ Viable (pre ++ [t]) := by
  rintro ⟨more, e, n, hd⟩
  exact h.blocks hd (ends_nil _) (append_token pre more t)

end Formulary

import Formulary.Expr
import Formulary.Proofs.Numerals

/-!
# The grammar of formulas

`Derives role tokens e n`: all the tokens, in this role, denote the expression `e`. The grammar puts
no bound on formulas; instead it counts. `n` is the largest number of groups, calls and right
operands of `^` that are open at once anywhere in the derivation.

* `Chain`: sums and products, whose operands are joined from the left.
* `Role`: what a list of tokens stands for. The tail of a chain is what follows its operands so far,
  of which `left` is the expression.
* `role.Ends rest`: the tokens after something in this role do not go on with it.

Results.
* A chain goes on from the left (`Derives.chain_join`).
* A list of tokens has one derivation in a role, also when more tokens follow (`derives_unique`).
-/

namespace Formulary

/-! ## 1. Roles -/

/-- The two kinds of operands joined from the left. -/
inductive Chain
  | sum
  | product

/-- The operators that join the operands. -/
def Chain.joins : Chain → Operator → Bool
  | sum, .add | sum, .subtract => true
  | product, .multiply | product, .divide => true
  | _, _ => false

/-- What a list of tokens stands for in a formula. -/
inductive Role
  | chain (c : Chain)
  | tail (c : Chain) (left : Expr)
  | power
  | factor

/-- The role of the operands. -/
def Chain.operand : Chain → Role
  | sum => .chain .product
  | product => .power

/-! ## 2. Derivations -/

/-- The tokens in the role denote the expression, with `n` the largest number of groups, calls and
right operands of `^` open at once. -/
inductive Derives : Role → List Token → Expr → Nat → Prop
  | chain {c : Chain} {s t : List Token} {first e : Expr} {m n : Nat} :
      Derives c.operand s first m → Derives (.tail c first) t e n →
      Derives (.chain c) (s ++ t) e (max m n)
  | done {c : Chain} {left : Expr} : Derives (.tail c left) [] left 0
  | join {c : Chain} {left right e : Expr} {op : Operator} {s t : List Token} {m n : Nat} :
      c.joins op = true → Derives c.operand s right m →
      Derives (.tail c (.binary op left right)) t e n →
      Derives (.tail c left) (.operator op :: (s ++ t)) e (max m n)
  | base {s : List Token} {e : Expr} {n : Nat} : Derives .factor s e n → Derives .power s e n
  | raise {s t : List Token} {base exponent : Expr} {m n : Nat} :
      Derives .factor s base m → Derives .power t exponent n →
      Derives .power (s ++ .operator .power :: t) (.binary .power base exponent) (max m (n + 1))
  | group {s : List Token} {e : Expr} {n : Nat} :
      Derives (.chain .sum) s e n → Derives .factor (.openParen :: (s ++ [.closeParen])) e (n + 1)
  | call {f : Logarithm} {s : List Token} {e : Expr} {n : Nat} :
      Derives (.chain .sum) s e n →
      Derives .factor (.logarithm f :: .openParen :: (s ++ [.closeParen])) (.call f e) (n + 1)
  | letter {name : Char} : Derives .factor [.letter name] (.var name) 0
  | number {text : String} {d : Number.Decimal} :
      Number.IsNumeral text.toList d → (d.toFloat false).isFinite = true →
      Derives .factor [.literal text] (.number (d.toFloat false)) 0

/-- The tokens are a formula for the expression. -/
def IsFormula (tokens : List Token) (e : Expr) : Prop :=
  ∃ n, Derives (.chain .sum) tokens e n

/-! ## 3. Where a role ends -/

/-- An operator with which something in this role goes on. -/
def Role.takes : Role → Operator → Bool
  | chain .sum, _ | tail .sum _, _ => true
  | chain .product, op | tail .product _, op => !Chain.sum.joins op
  | power, op => op == .power
  | factor, _ => false

/-- The tokens after something in this role do not go on with it. -/
def Role.Ends (role : Role) (rest : List Token) : Prop :=
  ∀ op, rest.head? = some (.operator op) → role.takes op = false

namespace GrammarLemmas

theorem takes_of_joins {c : Chain} {op : Operator} (left : Expr) (h : c.joins op = true) :
    (Role.tail c left).takes op = true := by
  cases c <;> cases op <;> first | rfl | cases h

theorem operand_takes_of_joins {c : Chain} {op : Operator} (h : c.joins op = true) :
    c.operand.takes op = false := by
  cases c <;> cases op <;> first | rfl | cases h

theorem chain_takes (c : Chain) (op : Operator) :
    (Role.chain c).takes op = (c.operand.takes op || c.joins op) := by
  cases c <;> cases op <;> rfl

theorem operand_takes_of_takes {c : Chain} {op : Operator}
    (h : (Role.chain c).takes op = false) : c.operand.takes op = false := by
  rw [chain_takes, Bool.or_eq_false_iff] at h
  exact h.1

theorem joins_of_takes {c : Chain} {op : Operator} (h : (Role.chain c).takes op = false) :
    c.joins op = false := by
  rw [chain_takes, Bool.or_eq_false_iff] at h
  exact h.2

theorem ends_nil (role : Role) : role.Ends [] := by
  intro op h
  cases h

theorem ends_closeParen (role : Role) (rest : List Token) : role.Ends (.closeParen :: rest) := by
  intro op h
  cases h

theorem ends_factor (rest : List Token) : Role.factor.Ends rest :=
  fun _ _ => rfl

theorem not_ends {role : Role} {op : Operator} {rest : List Token} (h : role.takes op = true) :
    ¬ role.Ends (.operator op :: rest) := by
  intro hends
  rw [hends op rfl] at h
  cases h

/-- The tails of a chain end in the same places as the chain. -/
theorem ends_tail {c : Chain} {rest : List Token} (left : Expr) :
    (Role.tail c left).Ends rest ↔ (Role.chain c).Ends rest := by
  cases c <;> exact Iff.rfl

/-- What ends a chain, after any of its tails ends the operand before the tail. -/
theorem ends_operand {c : Chain} {left e : Expr} {t rest : List Token} {n : Nat}
    (ht : Derives (.tail c left) t e n) (h : (Role.chain c).Ends rest) :
    c.operand.Ends (t ++ rest) := by
  cases ht with
  | done => exact fun op hop => operand_takes_of_takes (h op hop)
  | join hop _ _ =>
    intro op heq
    cases heq
    exact operand_takes_of_joins hop

end GrammarLemmas

open GrammarLemmas

/-! ## 4. Operands and chains -/

/-- An operand alone is a chain. -/
theorem Derives.alone {c : Chain} {s : List Token} {e : Expr} {n : Nat}
    (h : Derives c.operand s e n) : Derives (.chain c) s e n := by
  have hchain := Derives.chain h .done
  rwa [List.append_nil, Nat.max_eq_left (Nat.zero_le n)] at hchain

/-- One more operand at the end of a tail. -/
theorem Derives.tail_join {role : Role} {t : List Token} {e : Expr} {n : Nat}
    (ht : Derives role t e n) {c : Chain} {left : Expr} (hrole : role = .tail c left)
    {op : Operator} {s : List Token} {right : Expr} {m : Nat} (hop : c.joins op = true)
    (hs : Derives c.operand s right m) :
    Derives (.tail c left) (t ++ .operator op :: s) (.binary op e right) (max n m) := by
  induction ht generalizing left with
  | @done c left =>
    cases hrole
    have hjoin : Derives (.tail c left) (.operator op :: (s ++ [])) (.binary op left right) _ :=
      .join hop hs .done
    rwa [List.append_nil, Nat.max_comm] at hjoin
  | join hop' hs' _ _ iht =>
    cases hrole
    rw [List.cons_append, List.append_assoc, Nat.max_assoc]
    exact .join hop' hs' (iht rfl)
  | _ => cases hrole

/-- One more operand at the end of a chain. -/
theorem Derives.chain_join {c : Chain} {s t : List Token} {left right : Expr} {op : Operator}
    {m n : Nat} (hop : c.joins op = true) (hs : Derives (.chain c) s left m)
    (ht : Derives c.operand t right n) :
    Derives (.chain c) (s ++ .operator op :: t) (.binary op left right) (max m n) := by
  cases hs with
  | chain hfirst htail =>
    rw [List.append_assoc, Nat.max_assoc]
    exact .chain hfirst (htail.tail_join rfl hop ht)

/-! ## 5. Derivations are unique -/

/-- A list of tokens has one derivation in a role, also when more tokens follow. -/
theorem derives_unique {role : Role} {s s' r r' : List Token} {e e' : Expr} {n n' : Nat}
    (h : Derives role s e n) (h' : Derives role s' e' n') (heq : s ++ r = s' ++ r')
    (hr : role.Ends r) (hr' : role.Ends r') : s = s' ∧ e = e' ∧ n = n' ∧ r = r' := by
  -- the parts agree one after the other: what comes after a part is known to end it, on both sides
  induction h generalizing s' r r' e' n' with
  | @chain c s t first e m n hs ht ihs iht =>
    cases h' with
    | chain hs' ht' =>
      rw [List.append_assoc, List.append_assoc] at heq
      obtain ⟨rfl, rfl, rfl, htail⟩ := ihs hs' heq (ends_operand ht hr) (ends_operand ht' hr')
      obtain ⟨rfl, rfl, rfl, rfl⟩ :=
        iht ht' htail ((ends_tail first).2 hr) ((ends_tail first).2 hr')
      exact ⟨rfl, rfl, rfl, rfl⟩
  | @done c left =>
    cases h' with
    | done => exact ⟨rfl, rfl, rfl, heq⟩
    | join hop hs' ht' =>
      -- one tail stops before an operator with which the other goes on
      rw [List.nil_append] at heq
      exact absurd (heq ▸ hr) (not_ends (takes_of_joins left hop))
  | @join c left right e op s t m n hop hs ht ihs iht =>
    have hc := (ends_tail left).1 hr
    have hc' := (ends_tail left).1 hr'
    cases h' with
    | done =>
      rw [List.nil_append] at heq
      exact absurd (heq ▸ hr') (not_ends (takes_of_joins left hop))
    | join hop' hs' ht' =>
      simp only [List.cons_append, List.append_assoc, List.cons.injEq, Token.operator.injEq] at heq
      obtain ⟨rfl, heq⟩ := heq
      obtain ⟨rfl, rfl, rfl, htail⟩ := ihs hs' heq (ends_operand ht hc) (ends_operand ht' hc')
      obtain ⟨rfl, rfl, rfl, rfl⟩ := iht ht' htail ((ends_tail _).2 hc) ((ends_tail _).2 hc')
      exact ⟨rfl, rfl, rfl, rfl⟩
  | base hs ihs =>
    cases h' with
    | base hs' => exact ihs hs' heq (ends_factor r) (ends_factor r')
    | raise hs' ht' =>
      rw [List.append_assoc] at heq
      obtain ⟨-, -, -, rfl⟩ := ihs hs' heq (ends_factor r) (ends_factor _)
      exact absurd hr (not_ends rfl)
  | raise hs ht ihs iht =>
    cases h' with
    | base hs' =>
      rw [List.append_assoc] at heq
      obtain ⟨-, -, -, rfl⟩ := ihs hs' heq (ends_factor _) (ends_factor r')
      exact absurd hr' (not_ends rfl)
    | raise hs' ht' =>
      rw [List.append_assoc, List.append_assoc] at heq
      obtain ⟨rfl, rfl, rfl, htail⟩ := ihs hs' heq (ends_factor _) (ends_factor _)
      obtain ⟨rfl, rfl, rfl, rfl⟩ := iht ht' (List.cons.inj htail).2 hr hr'
      exact ⟨rfl, rfl, rfl, rfl⟩
  | group hs ihs =>
    cases h' with
    | group hs' =>
      simp only [List.cons_append, List.append_assoc, List.cons.injEq, true_and] at heq
      obtain ⟨rfl, rfl, rfl, htail⟩ := ihs hs' heq (ends_closeParen _ _) (ends_closeParen _ _)
      exact ⟨rfl, rfl, rfl, (List.cons.inj htail).2⟩
    | call _ => cases heq
    | letter => cases heq
    | number _ _ => cases heq
  | call hs ihs =>
    cases h' with
    | group _ => cases heq
    | call hs' =>
      simp only [List.cons_append, List.append_assoc, List.cons.injEq, true_and,
        Token.logarithm.injEq] at heq
      obtain ⟨rfl, heq⟩ := heq
      obtain ⟨rfl, rfl, rfl, htail⟩ := ihs hs' heq (ends_closeParen _ _) (ends_closeParen _ _)
      exact ⟨rfl, rfl, rfl, (List.cons.inj htail).2⟩
    | letter => cases heq
    | number _ _ => cases heq
  | letter =>
    cases h' with
    | group _ => cases heq
    | call _ => cases heq
    | letter =>
      cases heq
      exact ⟨rfl, rfl, rfl, rfl⟩
    | number _ _ => cases heq
  | number hd _ =>
    cases h' with
    | group _ => cases heq
    | call _ => cases heq
    | letter => cases heq
    | number hd' _ =>
      cases heq
      obtain rfl := hd.unique hd'
      exact ⟨rfl, rfl, rfl, rfl⟩

end Formulary

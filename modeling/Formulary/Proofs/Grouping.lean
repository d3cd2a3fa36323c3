import Mathlib.Control.Monad.Basic
import Formulary.Evaluation
import Formulary.Proofs.Rows

/-!
# When markup shows how a formula is grouped

A reader groups what stands in line by precedence, and operators of the same precedence from the
left. An expression that is grouped in this way is shown by its markup; one that is grouped
otherwise is not, and its markup is that of another expression with another value.

* `row.tokens`: a formula for the row, as a reader groups it.
* `e.conventional`: the operands of `+`, `-` and `*` in `e` are grouped as a reader groups them.

Results.
* The row of a conventional expression is read as that expression (`derives_tokens`).
* Conventional expressions with the same row are the same (`eq_of_row_eq`), so that formulas with
  the same markup have the same value (`evaluate_eq_of_render_eq`).
* Without convention they need not (`render_hides_grouping`).
-/

namespace Formulary

open GrammarLemmas ParsingLemmas WritingLemmas RowLemmas

/-! ## 1. The formula that a reader sees -/

/-- The operator in a formula. -/
def Join.operator : Join → Operator
  | add => .add
  | subtract => .subtract
  | multiply => .multiply

mutual

/-- A formula for the row: what stands in line gets no parentheses. -/
def Row.tokens : Row → List Token
  | .single atom => atom.tokens
  | .cons atom op rest => atom.tokens ++ .operator op.operator :: rest.tokens

/-- A formula for the atom. Parentheses around a fraction, its parts and an exponent stand for how
they are set apart in markup. -/
def Atom.tokens : Atom → List Token
  | .plain base => base.tokens
  | .fraction above below =>
    wrap false (wrap false above.tokens ++ .operator .divide :: wrap false below.tokens)
  | .power base exponent => base.tokens ++ .operator .power :: wrap false exponent.tokens

/-- A formula for the base. -/
def Base.tokens : Base → List Token
  | .number value => [.literal (Number.plainText value)]
  | .var name => [.letter name]
  | .call f argument => .logarithm f :: wrap false argument.tokens
  | .group inner => wrap false inner.tokens

end

namespace RowLemmas

theorem tokens_append : ∀ (row : Row) (op : Join) (row' : Row),
    (row.append op row').tokens = row.tokens ++ .operator op.operator :: row'.tokens
  | .single _, _, _ => rfl
  | .cons atom op' rest, op, row' => by
    rw [Row.append, Row.tokens, tokens_append rest, Row.tokens, List.append_assoc,
      List.cons_append]

end RowLemmas

/-! ## 2. Conventional expressions -/

/-- The expression stands in the role as a reader takes it. A fraction does so everywhere. -/
def Expr.standsIn (role : Role) : Expr → Bool
  | binary .divide _ _ => true
  | e => e.fits role

/-- What stands in line in the expression is grouped by precedence, and from the left. -/
def Expr.conventional : Expr → Bool
  | number _ => true
  | var _ => true
  | call _ argument => argument.conventional
  | binary op left right =>
    left.conventional && right.conventional &&
      (op == .divide || op == .power ||
        left.standsIn op.leftRole && right.standsIn op.rightRole)

example : (Expr.binary .multiply (.binary .add (.var 'x') (.var 'y')) (.var 'z')).conventional =
    false := by
  decide

/-! ## 3. The row is read as the expression -/

namespace RowLemmas

variable {e left right : Expr}

/-- The expression is read from the row in every role in which it stands as a reader takes it. -/
def Readable (e : Expr) : Prop :=
  ∀ role : Role, role.Whole → e.standsIn role = true → ∃ n, Derives role e.row.tokens e n

theorem standsIn_sum (e : Expr) : e.standsIn (.chain .sum) = true := by
  cases e with
  | binary op _ _ => cases op <;> rfl
  | _ => rfl

theorem derives_grouped (h : Readable e) : ∃ n, Derives .factor (wrap false e.row.tokens) e n := by
  obtain ⟨n, hd⟩ := h (.chain .sum) trivial (standsIn_sum e)
  exact ⟨n + 1, .group hd⟩

/-- An expression that is raised to a power is grouped, unless it is no operator. -/
theorem derives_base (h : Readable e) : ∃ n, Derives .factor e.row.base.tokens e n := by
  cases hbinary : e.isBinary with
  | true =>
    rw [base_row_of_isBinary hbinary]
    exact derives_grouped h
  | false =>
    have hstands : e.standsIn .factor = true := by
      cases e with
      | binary _ _ _ => cases hbinary
      | _ => rfl
    have hd := h .factor trivial hstands
    rw [row_of_not_isBinary hbinary] at hd
    exact hd

/-- Operators in line join what is read on their two sides. -/
theorem readable_join (op : Join) (hl : Readable left) (hr : Readable right)
    (hstands : (left.standsIn op.operator.leftRole &&
      right.standsIn op.operator.rightRole) = true)
    (hrow : (Expr.binary op.operator left right).row = left.row.append op right.row) :
    Readable (.binary op.operator left right) := by
  intro role hrole htakes
  obtain ⟨hleft, hright⟩ := Bool.and_eq_true_iff.1 hstands
  have hpower : op.operator ≠ .power := by cases op <;> decide
  obtain ⟨c, hop, hl', hr', -⟩ := exists_chain hpower left right
  rw [hl'] at hleft
  rw [hr'] at hright
  obtain ⟨m, hm⟩ := hl (.chain c) trivial hleft
  obtain ⟨n, hn⟩ := hr c.operand (by cases c <;> trivial) hright
  rw [hrow, tokens_append]
  refine ⟨max m n, derives_of_chain hrole hop ?_ (.chain_join hop hm hn)⟩
  cases op <;> exact htakes

end RowLemmas

/-- The row of a conventional expression is read as that expression. -/
theorem derives_tokens {e : Expr} (h : e.Writable) (hconv : e.conventional = true) :
    Readable e := by
  induction e with
  | number value =>
    intro role hrole _
    exact ⟨0, derives_of_factor hrole (derives_plainText h)⟩
  | var name =>
    intro role hrole _
    exact ⟨0, derives_of_factor hrole .letter⟩
  | call f argument ih =>
    intro role hrole _
    obtain ⟨n, hd⟩ := ih h hconv (.chain .sum) trivial (standsIn_sum argument)
    exact ⟨n + 1, derives_of_factor hrole (.call hd)⟩
  | binary op left right ihl ihr =>
    rw [Expr.conventional, Bool.and_eq_true, Bool.and_eq_true] at hconv
    obtain ⟨⟨hl, hr⟩, hstands⟩ := hconv
    have hleft := ihl h.1 hl
    have hright := ihr h.2 hr
    cases op with
    | add => exact readable_join .add hleft hright hstands rfl
    | subtract => exact readable_join .subtract hleft hright hstands rfl
    | multiply => exact readable_join .multiply hleft hright hstands rfl
    | divide =>
      intro role hrole _
      obtain ⟨m, hm⟩ := derives_grouped hleft
      obtain ⟨n, hn⟩ := derives_grouped hright
      have hjoin : Derives (.chain .product)
          (wrap false left.row.tokens ++ .operator .divide :: wrap false right.row.tokens)
          (.binary .divide left right) (max m n) :=
        .chain_join rfl (.alone (.base hm)) (.base hn)
      exact ⟨max m n + 1, derives_of_factor hrole (.group (.alone hjoin))⟩
    | power =>
      intro role hrole htakes
      obtain ⟨m, hm⟩ := derives_base hleft
      obtain ⟨n, hn⟩ := derives_grouped hright
      exact ⟨_, derives_of_power hrole htakes (.raise hm (.base hn))⟩

/-! ## 4. Values -/

/-- A row has one conventional expression. -/
theorem eq_of_row_eq {a b : Expr} (ha : a.Writable) (hb : b.Writable)
    (hconva : a.conventional = true) (hconvb : b.conventional = true) (h : a.row = b.row) :
    a = b := by
  obtain ⟨m, hda⟩ := derives_tokens ha hconva (.chain .sum) trivial (standsIn_sum a)
  obtain ⟨n, hdb⟩ := derives_tokens hb hconvb (.chain .sum) trivial (standsIn_sum b)
  rw [h] at hda
  exact (derives_unique hda hdb rfl (ends_nil _) (ends_nil _)).2.1

/-- Formulas with the same markup have the same value, if both are grouped as a reader groups
them. -/
theorem evaluate_eq_of_render_eq {f g : String} {a b : Expr} (hf : parseFormula f = .ok a)
    (hg : parseFormula g = .ok b) (hconva : a.conventional = true)
    (hconvb : b.conventional = true) (h : render a = render b) (limits : Limits)
    (env : Environment) : a.evaluate limits env = b.evaluate limits env := by
  obtain ⟨-, ha⟩ := writable_of_parseFormula hf
  obtain ⟨-, hb⟩ := writable_of_parseFormula hg
  rw [eq_of_row_eq ha hb hconva hconvb (row_eq_of_render_eq ha hb h)]

/-- Parentheses that a reader puts anyway change nothing. -/
theorem evaluate_eq_of_render_eq_difference :
    ∃ a b : Expr, parseFormula "x-y-2" = .ok a ∧ parseFormula "(x-y)-2" = .ok b ∧
      a.conventional = true ∧ b.conventional = true ∧ render a = render b ∧
      ∀ limits env, a.evaluate limits env = b.evaluate limits env := by
  have hf : parseFormula "x-y-2" =
      .ok (.binary .subtract (.binary .subtract (.var 'x') (.var 'y')) (.number 2)) := by
    decide +kernel
  have hg : parseFormula "(x-y)-2" =
      .ok (.binary .subtract (.binary .subtract (.var 'x') (.var 'y')) (.number 2)) := by
    decide +kernel
  exact ⟨_, _, hf, hg, rfl, rfl, rfl, evaluate_eq_of_render_eq hf hg rfl rfl rfl⟩

/-- The markup of a difference that is grouped from the right is that of one grouped from the left,
which has another value. -/
theorem render_hides_grouping :
    ∃ a b : Expr, parseFormula "1-(2-3)" = .ok a ∧ parseFormula "1-2-3" = .ok b ∧
      render a = render b ∧
      a.evaluate {} .empty = .ok 2 ∧ b.evaluate {} .empty = .ok (-4) := by
  refine ⟨.binary .subtract (.number 1) (.binary .subtract (.number 2) (.number 3)),
    .binary .subtract (.binary .subtract (.number 1) (.number 2)) (.number 3), ?_, ?_, ?_, ?_, ?_⟩
    <;> decide +kernel

end Formulary

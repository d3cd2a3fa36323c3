import Formulary.Number.Plain
import Formulary.Proofs.Parsing
import Formulary.Proofs.Scanning

/-!
# Expressions that have a formula

An expression is written with the parentheses that it needs and no others. So written, it opens
fewer of them than it is high, and the bound on nesting never comes before the bound on heights.

* `e.Writable`: the numbers and variables of `e` are those that a formula can hold.
* `e.write`: the tokens of `e`, parenthesized where needed.

Results.
* What is written is derived, in each role, with less nesting than height (`derives_wrap`).
* The expressions of formulas are the writable ones that are not too high (`parseFormula_image`).
-/

namespace Formulary

open GrammarLemmas ParsingLemmas ScanningLemmas

/-! ## 1. Writable expressions -/

/-- Every number of the expression is finite and without a minus sign, and every variable is an
ASCII letter. -/
def Expr.Writable : Expr → Prop
  | number value => Number.IsUnsigned value
  | var name => name.isAlpha = true
  | call _ argument => argument.Writable
  | binary _ left right => left.Writable ∧ right.Writable

/-- What well-formed tokens derive is writable. -/
theorem writable_of_derives {role : Role} {s : List Token} {e : Expr} {n : Nat}
    (h : Derives role s e n) (hwell : ∀ t ∈ s, t.WellFormed)
    (hleft : ∀ c left, role = .tail c left → left.Writable) : e.Writable := by
  have untailed {c : Chain} : ∀ c' left, c.operand = .tail c' left → left.Writable := by
    intro c' left hrole
    cases c <;> cases hrole
  induction h with
  | chain _ _ ihs iht =>
    obtain ⟨hs, ht⟩ := List.forall_mem_append.1 hwell
    refine iht ht ?_
    rintro c left ⟨⟩
    exact ihs hs untailed
  | done => exact hleft _ _ rfl
  | join _ _ _ ihs iht =>
    obtain ⟨hs, ht⟩ := List.forall_mem_append.1 (List.forall_mem_cons.1 hwell).2
    refine iht ht ?_
    rintro c left ⟨⟩
    exact ⟨hleft _ _ rfl, ihs hs untailed⟩
  | base _ ih => exact ih hwell (fun _ _ hrole => by cases hrole)
  | raise _ _ ihs iht =>
    obtain ⟨hs, ht⟩ := List.forall_mem_append.1 hwell
    exact ⟨ihs hs (fun _ _ hrole => by cases hrole),
      iht (List.forall_mem_cons.1 ht).2 (fun _ _ hrole => by cases hrole)⟩
  | group _ ih =>
    obtain ⟨hs, -⟩ := List.forall_mem_append.1 (List.forall_mem_cons.1 hwell).2
    exact ih hs (fun _ _ hrole => by cases hrole)
  | call _ ih =>
    have hinner := (List.forall_mem_cons.1 (List.forall_mem_cons.1 hwell).2).2
    obtain ⟨hs, -⟩ := List.forall_mem_append.1 hinner
    exact ih hs (fun _ _ hrole => by cases hrole)
  | letter => exact hwell _ List.mem_cons_self
  | @number _ d _ hfin =>
    exact Number.isUnsigned_iff.2 ⟨d.index, (Number.isFinite_toFloat_iff d false).1 hfin, rfl⟩

/-! ## 2. Writing -/

/-- The role of the operand before the operator. -/
def Operator.leftRole : Operator → Role
  | add | subtract => .chain .sum
  | multiply | divide => .chain .product
  | power => .factor

/-- The role of the operand after the operator. -/
def Operator.rightRole : Operator → Role
  | add | subtract => .chain .product
  | multiply | divide | power => .power

/-- The expression needs no parentheses in the role. -/
def Expr.fits (role : Role) : Expr → Bool
  | binary op _ _ => role.takes op
  | _ => true

/-- The tokens, in parentheses unless they fit. -/
def wrap (fits : Bool) (tokens : List Token) : List Token :=
  if fits then tokens else .openParen :: (tokens ++ [.closeParen])

/-- The tokens of the expression, with the parentheses that it needs. -/
def Expr.write : Expr → List Token
  | number value => [.literal (Number.plainText value)]
  | var name => [.letter name]
  | call f argument => .logarithm f :: .openParen :: (argument.write ++ [.closeParen])
  | binary op left right =>
    wrap (left.fits op.leftRole) left.write ++
      .operator op :: wrap (right.fits op.rightRole) right.write

example : (Expr.binary .power (.binary .power (.var 'x') (.var 'y'))
    (.binary .add (.var 'x') (.var 'y'))).write.map Token.text =
    ["(", "x", "^", "y", ")", "^", "(", "x", "+", "y", ")"] := by
  decide

/-! ## 3. What is written derives the expression -/

/-- The role is that of a whole expression. -/
def Role.Whole : Role → Prop
  | tail _ _ => False
  | _ => True

/-- How far the nesting in the role stays below the height. -/
def Role.room : Role → Nat
  | factor => 0
  | _ => 1

/-- How far the nesting of the expression, without parentheses around it, stays below its height. -/
def Expr.room : Expr → Nat
  | binary .power _ _ => 1
  | binary _ _ _ => 2
  | _ => 1

namespace WritingLemmas

variable {s : List Token} {e : Expr} {n : Nat}

theorem derives_of_power {role : Role} (hrole : role.Whole) (htakes : role.takes .power = true)
    (h : Derives .power s e n) : Derives role s e n := by
  have product : Derives (.chain .product) s e n := .alone h
  cases role with
  | chain c =>
    cases c with
    | sum => exact .alone product
    | product => exact product
  | tail _ _ => cases hrole
  | power => exact h
  | factor => cases htakes

theorem derives_of_factor {role : Role} (hrole : role.Whole) (h : Derives .factor s e n) :
    Derives role s e n := by
  cases role with
  | chain c => exact derives_of_power trivial (by cases c <;> rfl) (.base h)
  | tail _ _ => cases hrole
  | power => exact .base h
  | factor => exact h

theorem derives_of_chain {role : Role} {c : Chain} {op : Operator} (hrole : role.Whole)
    (hop : c.joins op = true) (htakes : role.takes op = true) (h : Derives (.chain c) s e n) :
    Derives role s e n := by
  cases role with
  | chain c' =>
    cases c with
    | sum =>
      cases c' with
      | sum => exact h
      | product =>
        rw [show (Role.chain .product).takes op = !Chain.sum.joins op from rfl, hop] at htakes
        cases htakes
    | product =>
      cases c' with
      | sum => exact .alone h
      | product => exact h
  | tail _ _ => cases hrole
  | power =>
    cases c <;> cases op <;>
      first | exact absurd hop (by decide) | exact absurd htakes (by decide)
  | factor => cases htakes

theorem fits_sum (e : Expr) : e.fits (.chain .sum) = true := by
  cases e <;> rfl

/-- The plain digits of a number derive it. -/
theorem derives_plainText {x : Float} (h : Number.IsUnsigned x) :
    Derives .factor [.literal (Number.plainText x)] (.number x) 0 := by
  obtain ⟨d, hd, rfl⟩ := Number.exists_isNumeral_plain h
  refine .number ?_ h.1
  rwa [Number.plainText, String.toList_ofList]

theorem room_le (role : Role) (e : Expr) : role.room ≤ e.room := by
  have hrole : role.room ≤ 1 := by cases role <;> exact Nat.le_of_ble_eq_true rfl
  have he : 1 ≤ e.room := by
    cases e with
    | binary op _ _ => cases op <;> exact Nat.le_of_ble_eq_true rfl
    | _ => exact Nat.le_refl 1
  exact Nat.le_trans hrole he

/-- What needs parentheses has room for them. -/
theorem room_lt_of_not_fits {role : Role} {e : Expr} (hrole : role.Whole)
    (h : e.fits role = false) : role.room + 1 ≤ e.room := by
  cases e with
  | binary op left right =>
    have htakes : role.takes op = false := h
    cases role with
    | chain c =>
      cases c <;> cases op <;> first | exact Nat.le_refl 2 | exact nomatch htakes
    | tail _ _ => cases hrole
    | power => cases op <;> first | exact Nat.le_refl 2 | exact nomatch htakes
    | factor => cases op <;> exact Nat.le_of_ble_eq_true rfl
  | _ => cases h

/-- Parentheses cost one level, which only expressions with room for it need. -/
theorem derives_wrap (own : ∀ role : Role, role.Whole → e.fits role = true →
      ∃ n, Derives role e.write e n ∧ n + e.room ≤ e.height) (role : Role) (hrole : role.Whole) :
    ∃ n, Derives role (wrap (e.fits role) e.write) e n ∧ n + role.room ≤ e.height := by
  cases hfits : e.fits role with
  | true =>
    obtain ⟨n, hd, hn⟩ := own role hrole hfits
    exact ⟨n, hd, Nat.le_trans (Nat.add_le_add_left (room_le role e) n) hn⟩
  | false =>
    -- inside parentheses everything fits
    obtain ⟨n, hd, hn⟩ := own (.chain .sum) trivial (fits_sum e)
    refine ⟨n + 1, derives_of_factor hrole (.group hd), Nat.le_trans ?_ hn⟩
    rw [Nat.add_assoc, Nat.add_comm 1]
    exact Nat.add_le_add_left (room_lt_of_not_fits hrole hfits) n

/-- Every operator but `^` joins the operands of a chain. -/
theorem exists_chain {op : Operator} (h : op ≠ .power) (left right : Expr) :
    ∃ c : Chain, c.joins op = true ∧ op.leftRole = .chain c ∧ op.rightRole = c.operand ∧
      (Expr.binary op left right).room = 2 := by
  cases op with
  | add => exact ⟨.sum, rfl, rfl, rfl, rfl⟩
  | subtract => exact ⟨.sum, rfl, rfl, rfl, rfl⟩
  | multiply => exact ⟨.product, rfl, rfl, rfl, rfl⟩
  | divide => exact ⟨.product, rfl, rfl, rfl, rfl⟩
  | power => exact absurd rfl h

end WritingLemmas

open WritingLemmas

/-- What is written derives the expression, in every role that needs no parentheses around it. -/
theorem derives_write {e : Expr} (h : e.Writable) :
    ∀ role : Role, role.Whole → e.fits role = true →
      ∃ n, Derives role e.write e n ∧ n + e.room ≤ e.height := by
  induction e with
  | number value =>
    intro role hrole _
    exact ⟨0, derives_of_factor hrole (derives_plainText h), Nat.le_refl 1⟩
  | var name =>
    intro role hrole _
    exact ⟨0, derives_of_factor hrole .letter, Nat.le_refl 1⟩
  | call f argument ih =>
    intro role hrole _
    obtain ⟨n, hd, hn⟩ := ih h (.chain .sum) trivial (fits_sum argument)
    refine ⟨n + 1, derives_of_factor hrole (.call hd), Nat.succ_le_succ ?_⟩
    exact Nat.le_trans (Nat.add_le_add_left (room_le .power argument) n) hn
  | binary op left right ihl ihr =>
    intro role hrole hfits
    obtain ⟨m, hl, hm⟩ := derives_wrap (ihl h.1) op.leftRole (by cases op <;> trivial)
    obtain ⟨n, hr, hn⟩ := derives_wrap (ihr h.2) op.rightRole (by cases op <;> trivial)
    have hleft : left.height ≤ max left.height right.height := Nat.le_max_left _ _
    have hright : right.height ≤ max left.height right.height := Nat.le_max_right _ _
    by_cases hpower : op = .power
    · subst hpower
      -- the right operand takes a level, for which the room of the role `power` is
      refine ⟨max m (n + 1), derives_of_power hrole hfits (.raise hl hr), Nat.succ_le_succ ?_⟩
      exact Nat.max_le.2 ⟨Nat.le_trans hm hleft, Nat.le_trans hn hright⟩
    · obtain ⟨c, hop, hl', hr', hroom⟩ := exists_chain hpower left right
      unfold Expr.write
      rw [hl'] at hl hm ⊢
      rw [hr'] at hr hn ⊢
      refine ⟨max m n, derives_of_chain hrole hop hfits (.chain_join hop hl hr), ?_⟩
      rw [hroom]
      -- neither operand of a chain takes a level, so that both leave one more than they need
      refine Nat.succ_le_succ ?_
      rw [← Nat.add_max_add_right]
      refine Nat.max_le.2 ⟨Nat.le_trans hm hleft, Nat.le_trans ?_ hright⟩
      cases c <;> exact hn

/-! ## 4. What is written is the text of a formula -/

namespace WritingLemmas

theorem chars_isNumeral {s : List Char} {d : Number.Decimal} (h : Number.IsNumeral s d) :
    s ≠ [] ∧ ∀ c ∈ s, c.isDigit = true ∨ c = '.' := by
  cases h with
  | whole hne hw => exact ⟨hne, fun c hc => .inl (hw c hc)⟩
  | point hw hf _ =>
    refine ⟨List.append_ne_nil_of_right_ne_nil _ (List.cons_ne_nil _ _), fun c hc => ?_⟩
    obtain hc | hc := List.mem_append.1 hc
    · exact .inl (hw c hc)
    · obtain rfl | hc := List.mem_cons.1 hc
      · exact .inr rfl
      · exact .inl (hf c hc)

theorem plain_of_isDigit {c : Char} (h : c.isDigit = true) :
    Text.isBlank c = false ∧ c ∉ symbols ∧ c ≠ 'l' ∧ c.isAlpha = false := by
  have hbounds : 48 ≤ c.toNat ∧ c.toNat ≤ 57 := by
    unfold Char.isDigit at h
    simpa [UInt32.le_iff_toNat_le] using h
  refine ⟨?_, ?_, ?_, ?_⟩
  · exact isBlank_of_graphic (by omega) (by omega)
  · intro hc
    have hnone : ∀ x ∈ symbols, x.isDigit = false := forall_symbols (by decide)
    rw [hnone c hc] at h
    cases h
  · rintro rfl
    cases h
  · refine Bool.eq_false_iff.2 fun halpha => ?_
    have := bounds_of_alpha halpha
    omega

theorem plain_of_numeral {s : List Char} {d : Number.Decimal} (h : Number.IsNumeral s d) :
    ∀ c ∈ s, Text.isBlank c = false ∧ c ∉ symbols ∧ c ≠ 'l' ∧ c.isAlpha = false := by
  intro c hc
  obtain hdigit | rfl := (chars_isNumeral h).2 c hc
  · exact plain_of_isDigit hdigit
  · decide

/-- A numeral can be a literal. -/
theorem wellFormed_literal {text : String} {d : Number.Decimal}
    (h : Number.IsNumeral text.toList d) : (Token.literal text).WellFormed := by
  have hplain := plain_of_numeral h
  refine ⟨⟨(chars_isNumeral h).1, fun c hc => ?_, fun f hf => ?_⟩, fun c hc => ?_⟩
  · exact ⟨(hplain c hc).1, (hplain c hc).2.1⟩
  · have hl : 'l' ∈ f.text.toList := by cases f <;> exact List.mem_cons_self
    exact (hplain 'l' (hf.subset hl)).2.2.1 rfl
  · exact (hplain c (by rw [hc]; exact List.mem_cons_self)).2.2.2

theorem wellFormed_plainText {x : Float} (h : Number.IsUnsigned x) :
    (Token.literal (Number.plainText x)).WellFormed := by
  obtain ⟨d, hd, -⟩ := Number.exists_isNumeral_plain h
  refine wellFormed_literal (d := d) ?_
  rwa [Number.plainText, String.toList_ofList]

theorem wellFormed_wrap {tokens : List Token} (h : ∀ t ∈ tokens, t.WellFormed) (fits : Bool) :
    ∀ t ∈ wrap fits tokens, t.WellFormed := by
  cases fits with
  | true => exact h
  | false =>
    refine List.forall_mem_cons.2 ⟨trivial, List.forall_mem_append.2 ⟨h, ?_⟩⟩
    exact List.forall_mem_cons.2 ⟨trivial, List.forall_mem_nil _⟩

end WritingLemmas

theorem wellFormed_write {e : Expr} (h : e.Writable) : ∀ t ∈ e.write, t.WellFormed := by
  induction e with
  | number value =>
    exact List.forall_mem_cons.2 ⟨wellFormed_plainText h, List.forall_mem_nil _⟩
  | var name => exact List.forall_mem_cons.2 ⟨h, List.forall_mem_nil _⟩
  | call f argument ih =>
    exact List.forall_mem_cons.2 ⟨trivial, wellFormed_wrap (ih h) false⟩
  | binary op left right ihl ihr =>
    refine List.forall_mem_append.2 ⟨wellFormed_wrap (ihl h.1) _, ?_⟩
    exact List.forall_mem_cons.2 ⟨trivial, wellFormed_wrap (ihr h.2) _⟩

/-- The text of what is written gives the expression back, if that is not too high. -/
theorem parseFormula_write {e : Expr} (h : e.Writable) (hheight : e.height ≤ maxDepth) :
    parseFormula (" ".intercalate (e.write.map Token.text)) = .ok e := by
  obtain ⟨n, hd, hn⟩ := derives_write h (.chain .sum) trivial (fits_sum e)
  have hn' : n ≤ maxDepth := Nat.le_trans (Nat.le_of_add_right_le hn) hheight
  rw [parseFormula, tokenize_intercalate (wellFormed_write h), parse_of_derives hd]
  exact if_pos ⟨hn', hheight⟩

/-- The expression of a formula is writable and not too high. -/
theorem writable_of_parseFormula {formula : String} {e : Expr} (h : parseFormula formula = .ok e) :
    e.height ≤ maxDepth ∧ e.Writable := by
  obtain ⟨n, hd⟩ := isFormula_of_parse h
  have hwell : ∀ t ∈ tokenize formula, t.WellFormed := by
    obtain ⟨l, hl, -, htokens⟩ := exists_layout_tokenize formula
    rw [← htokens]
    exact wellFormed_of_proper hl
  have hwritable := writable_of_derives hd hwell fun _ _ hrole => by cases hrole
  rw [parseFormula, parse_of_derives hd] at h
  split at h
  · next hbounds => exact ⟨hbounds.2, hwritable⟩
  · cases h

/-- An expression has a formula exactly when it is not too high, its numbers are finite and without
a minus sign, and its variables are letters. The bound on nesting excludes nothing. -/
theorem parseFormula_image (e : Expr) :
    (∃ formula, parseFormula formula = .ok e) ↔ e.height ≤ 256 ∧ e.Writable := by
  constructor
  · rintro ⟨formula, h⟩
    exact writable_of_parseFormula h
  · rintro ⟨hheight, hwritable⟩
    exact ⟨_, parseFormula_write hwritable hheight⟩

end Formulary

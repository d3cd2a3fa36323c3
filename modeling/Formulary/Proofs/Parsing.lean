import Formulary.Proofs.Failure
import Formulary.Proofs.Reading

/-!
# The parser and the grammar

What is read in a role is compared with the derivations of the grammar, in both directions.

* `bounded levels n e rest`: the answer for an expression that needs `n` levels of nesting.
* `role.Faithful tokens answer`: the answer tells of a derivation, of a failure, or of a bound.

Results.
* A derivation decides what is read, bounds included (`read_of_derives`).
* Whatever is read, the grammar bears it out (`faithful_read`).
* The parser gives the expression of the grammar, unless it exceeds a bound (`parse_correct`).
-/

namespace Formulary

open GrammarLemmas ReadingLemmas

/-! ## 1. Literals and heights -/

theorem literalValue_of_isNumeral {text : String} {d : Number.Decimal}
    (h : Number.IsNumeral text.toList d) (hfin : (d.toFloat false).isFinite = true) :
    literalValue text = .ok (d.toFloat false) := by
  rw [literalValue, Number.numeral?_eq_some_iff.2 h]
  dsimp only
  rw [Number.finite?_eq_some_iff.2 ⟨hfin, rfl⟩]

/-- A literal is a number, or no factor begins with it. -/
theorem literalValue_cases (text : String) :
    (∃ d, Number.IsNumeral text.toList d ∧ (d.toFloat false).isFinite = true ∧
      literalValue text = .ok (d.toFloat false)) ∨
    ∃ error, literalValue text = .error error ∧ ∀ rest, Refuses (.literal text :: rest) error := by
  cases hnum : Number.numeral? text.toList with
  | none =>
    refine .inr ⟨.invalidLiteral text, by rw [literalValue, hnum], fun rest => .literal ?_⟩
    intro d hd
    rw [Number.numeral?_eq_some_iff.2 hd] at hnum
    cases hnum
  | some d =>
    have hd := Number.numeral?_eq_some_iff.1 hnum
    cases hfin : (d.toFloat false).isFinite with
    | true => exact .inl ⟨d, hd, hfin, literalValue_of_isNumeral hd hfin⟩
    | false =>
      refine .inr ⟨.numberTooLarge text, ?_, fun rest => .large hd hfin⟩
      have hnone : d.finite? false = none := by
        cases hx : d.finite? false with
        | none => rfl
        | some x =>
          rw [(Number.finite?_eq_some_iff.1 hx).1] at hfin
          cases hfin
      rw [literalValue, hnum]
      dsimp only
      rw [hnone]

theorem checkHeight_of_le {e : Expr} (h : e.height ≤ maxDepth) : checkHeight e = .ok e :=
  if_pos h

theorem checkHeight_of_lt {e : Expr} (h : maxDepth < e.height) : checkHeight e = .error .tooDeep :=
  if_neg (Nat.not_le.2 h)

/-! ## 2. What a derivation makes the parser read -/

/-- The answer for an expression that needs `n` levels of nesting where `levels` are left. -/
def bounded (levels n : Nat) (e : Expr) (rest : List Token) :
    Except ParseError (Expr × List Token) :=
  if n ≤ levels ∧ e.height ≤ maxDepth then .ok (e, rest) else .error .tooDeep

/-- The expression before a tail is not too high. -/
def Role.Low : Role → Prop
  | tail _ left => left.height ≤ maxDepth
  | _ => True

namespace ParsingLemmas

variable {levels m n : Nat} {a e : Expr} {r rest : List Token}

theorem low_operand (c : Chain) : c.operand.Low := by
  cases c <;> trivial

theorem bounded_eq_ok (hn : n ≤ levels) (he : e.height ≤ maxDepth) :
    bounded levels n e rest = .ok (e, rest) :=
  if_pos ⟨hn, he⟩

/-- A part keeps the bounds, or the whole exceeds them. -/
theorem bounded_bind {f : Expr × List Token → Except ParseError (Expr × List Token)}
    (hm : m ≤ n) (ha : a.height ≤ e.height)
    (hf : m ≤ levels → a.height ≤ maxDepth → f (a, r) = bounded levels n e rest) :
    (bounded levels m a r >>= f) = bounded levels n e rest := by
  by_cases h : m ≤ levels ∧ a.height ≤ maxDepth
  · rw [bounded_eq_ok h.1 h.2]
    exact hf h.1 h.2
  · have hn : ¬ (n ≤ levels ∧ e.height ≤ maxDepth) :=
      fun hn => h ⟨Nat.le_trans hm hn.1, Nat.le_trans ha hn.2⟩
    rw [bounded, bounded, if_neg h, if_neg hn]
    rfl

theorem checkHeight_bind {f : Expr → Except ParseError (Expr × List Token)}
    (ha : a.height ≤ e.height) (hf : a.height ≤ maxDepth → f a = bounded levels n e rest) :
    (checkHeight a >>= f) = bounded levels n e rest := by
  by_cases h : a.height ≤ maxDepth
  · rw [checkHeight_of_le h]
    exact hf h
  · rw [checkHeight_of_lt (Nat.not_le.1 h), bounded,
      if_neg fun hn => h (Nat.le_trans ha hn.2)]
    rfl

theorem bounded_max (hm : m ≤ levels) :
    bounded levels n e rest = bounded levels (max m n) e rest := by
  rw [bounded, bounded]
  simp only [Nat.max_le, hm, true_and]

theorem left_lt_binary (op : Operator) (a b : Expr) : a.height < (Expr.binary op a b).height :=
  Nat.lt_succ_of_le (Nat.le_max_left _ _)

theorem right_lt_binary (op : Operator) (a b : Expr) : b.height < (Expr.binary op a b).height :=
  Nat.lt_succ_of_le (Nat.le_max_right _ _)

/-- A chain is at least as high as what its tail begins with. -/
theorem left_le_tail {role : Role} {s : List Token} (h : Derives role s e n) :
    ∀ c left, role = .tail c left → left.height ≤ e.height := by
  induction h with
  | done =>
    rintro c left ⟨⟩
    exact Nat.le_refl _
  | join _ _ _ _ iht =>
    rintro c left ⟨⟩
    exact Nat.le_trans (Nat.le_of_lt (left_lt_binary _ _ _)) (iht _ _ rfl)
  | _ =>
    rintro c left ⟨⟩

/-- One level further in, one more level is needed. -/
theorem readInner_of_read {role : Role} {s : List Token}
    (h : ∀ levels, role.read levels (s ++ rest) = bounded levels n e rest) (levels : Nat) :
    role.readInner levels (s ++ rest) = bounded levels (n + 1) e rest := by
  cases levels with
  | zero =>
    rw [bounded, if_neg fun hn => Nat.not_succ_le_zero n hn.1]
    rfl
  | succ levels =>
    rw [Role.readInner, h, bounded, bounded]
    simp only [Nat.succ_le_succ_iff]

/-- A sum between parentheses, one level further in. -/
theorem readInner_closed {s : List Token} (h : ∀ levels {rest : List Token},
      (Role.chain .sum).Ends rest →
        (Role.chain .sum).read levels (s ++ rest) = bounded levels n e rest) (levels : Nat) :
    (Role.chain .sum).readInner levels (s ++ [.closeParen] ++ rest) =
      bounded levels (n + 1) e (.closeParen :: rest) := by
  rw [List.append_assoc]
  exact readInner_of_read (fun levels => h levels (ends_closeParen _ _)) levels

theorem one_le_maxDepth : 1 ≤ maxDepth := by
  decide

theorem height_le_call (f : Logarithm) (a : Expr) : a.height ≤ (Expr.call f a).height :=
  Nat.le_succ _

end ParsingLemmas

open ParsingLemmas

/-- A derivation decides what is read: its expression, or that a bound is exceeded. -/
theorem read_of_derives {role : Role} {s : List Token} {e : Expr} {n : Nat}
    (h : Derives role s e n) (levels : Nat) {rest : List Token} (hends : role.Ends rest)
    (hlow : role.Low) : role.read levels (s ++ rest) = bounded levels n e rest := by
  -- a part that exceeds a bound makes the whole exceed it, so each part is read in bounds or not
  -- at all
  induction h generalizing levels rest with
  | @chain c s t first e m n hs ht ihs iht =>
    rw [List.append_assoc, read_chain, ihs levels (ends_operand ht hends) (low_operand c)]
    refine bounded_bind (Nat.le_max_left m n) (left_le_tail ht _ _ rfl) fun hm hfirst => ?_
    rw [← bounded_max hm]
    exact iht levels ((ends_tail first).2 hends) hfirst
  | @done c left =>
    have hjoins : ∀ op, rest.head? = some (.operator op) → c.joins op = false :=
      fun op hop => joins_of_takes ((ends_tail left).1 hends op hop)
    rw [List.nil_append, read_done _ _ _ hjoins, bounded_eq_ok (Nat.zero_le _) hlow]
  | @join c left right e op s t m n hop hs ht ihs iht =>
    have hends' := (ends_tail left).1 hends
    have hbin := left_le_tail ht _ _ rfl
    rw [List.cons_append, List.append_assoc, read_join _ _ hop,
      ihs levels (ends_operand ht hends') (low_operand c)]
    have hright := Nat.le_of_lt (right_lt_binary op left right)
    refine bounded_bind (Nat.le_max_left m n) (Nat.le_trans hright hbin) fun hm _ => ?_
    refine checkHeight_bind hbin fun hlow' => ?_
    rw [← bounded_max hm]
    exact iht levels ((ends_tail _).2 hends') hlow'
  | @base s e n hs ih =>
    rw [read_power, ih levels (ends_factor _) trivial]
    refine bounded_bind (Nat.le_refl _) (Nat.le_refl _) fun hn he => ?_
    rw [bounded_eq_ok hn he]
    -- a `^` here would go on with the power
    split
    · next heq =>
      rw [show rest = _ from heq] at hends
      exact absurd hends (not_ends rfl)
    · rfl
  | @raise s t base exponent m n hs ht ihs iht =>
    have hinner : ∀ levels, Role.power.read levels (t ++ rest) = bounded levels n exponent rest :=
      fun levels => iht levels hends trivial
    rw [List.append_assoc, read_power, ihs levels (ends_factor _) trivial]
    refine bounded_bind (Nat.le_max_left _ _) (Nat.le_of_lt (left_lt_binary _ _ _)) fun hm _ => ?_
    show Role.power.readInner levels (t ++ rest) >>= _ = _
    rw [readInner_of_read hinner]
    refine bounded_bind (Nat.le_max_right _ _) (Nat.le_of_lt (right_lt_binary _ _ _)) fun hn _ => ?_
    refine checkHeight_bind (Nat.le_refl _) fun he => ?_
    rw [bounded_eq_ok (Nat.max_le.2 ⟨hm, hn⟩) he]
  | @group s e n hs ih =>
    rw [List.cons_append, read_group,
      readInner_closed fun levels _ hends => ih levels hends trivial]
    refine bounded_bind (Nat.le_refl _) (Nat.le_refl _) fun hn he => ?_
    rw [bounded_eq_ok hn he, closeAfter]
  | @call f s e n hs ih =>
    rw [List.cons_append, List.cons_append, read_call,
      readInner_closed fun levels _ hends => ih levels hends trivial]
    refine bounded_bind (Nat.le_refl _) (height_le_call f e) fun hn _ => ?_
    refine checkHeight_bind (Nat.le_refl _) fun he => ?_
    rw [bounded_eq_ok hn he]
  | letter =>
    rw [List.cons_append, read_letter]
    exact Eq.symm (bounded_eq_ok (Nat.zero_le _) one_le_maxDepth)
  | number hd hfin =>
    rw [List.cons_append, read_literal, literalValue_of_isNumeral hd hfin]
    exact Eq.symm (bounded_eq_ok (Nat.zero_le _) one_le_maxDepth)

/-! ## 3. What a reading says of the grammar -/

/-- The answer tells of a derivation, of a failure, or of a bound. -/
def Role.Faithful (role : Role) (tokens : List Token) :
    Except ParseError (Expr × List Token) → Prop
  | .ok (e, rest) => ∃ s n, tokens = s ++ rest ∧ Derives role s e n ∧ role.Ends rest
  | .error error => error = .tooDeep ∨ ∃ pre rest, tokens = pre ++ rest ∧ Fails role pre rest error

namespace ParsingLemmas

variable {levels : Nat} {tokens : List Token}

theorem faithful_of_fails {role : Role} {pre rest : List Token} {error : ParseError}
    (heq : tokens = pre ++ rest) (h : Fails role pre rest error) :
    role.Faithful tokens (.error error) :=
  .inr ⟨pre, rest, heq, h⟩

/-- The answer about a part, carried over to the whole. An exceeded bound stays one. -/
theorem faithful_bind {role inner : Role} {ts : List Token}
    {x : Except ParseError (Expr × List Token)}
    {f : Expr × List Token → Except ParseError (Expr × List Token)} (hx : inner.Faithful ts x)
    (hfail : ∀ {pre rest error}, ts = pre ++ rest → Fails inner pre rest error →
      role.Faithful tokens (.error error))
    (hok : ∀ {s rest e n}, ts = s ++ rest → Derives inner s e n → inner.Ends rest →
      role.Faithful tokens (f (e, rest))) : role.Faithful tokens (x >>= f) := by
  cases x with
  | error error =>
    cases hx with
    | inl hdeep => exact .inl hdeep
    | inr h =>
      obtain ⟨pre, rest, heq, hf⟩ := h
      exact hfail heq hf
  | ok r =>
    obtain ⟨s, n, heq, hd, hends⟩ := hx
    exact hok heq hd hends

theorem faithful_checkHeight {role : Role} {e : Expr}
    {f : Expr → Except ParseError (Expr × List Token)} (h : role.Faithful tokens (f e)) :
    role.Faithful tokens (checkHeight e >>= f) := by
  by_cases he : e.height ≤ maxDepth
  · rwa [checkHeight_of_le he]
  · rw [checkHeight_of_lt (Nat.not_le.1 he)]
    exact .inl rfl

/-- An answer about a longer role, from one about what is left of it. -/
theorem faithful_append {role inner : Role} {s : List Token}
    {x : Except ParseError (Expr × List Token)} (hx : inner.Faithful tokens x)
    (hfail : ∀ {pre rest error}, Fails inner pre rest error → Fails role (s ++ pre) rest error)
    (hok : ∀ {t e n}, Derives inner t e n → ∃ m, Derives role (s ++ t) e m)
    (hends : ∀ {rest}, inner.Ends rest → role.Ends rest) : role.Faithful (s ++ tokens) x := by
  cases x with
  | error error =>
    cases hx with
    | inl hdeep => exact .inl hdeep
    | inr h =>
      obtain ⟨pre, rest, rfl, hf⟩ := h
      exact faithful_of_fails (List.append_assoc s pre rest).symm (hfail hf)
  | ok r =>
    obtain ⟨t, n, rfl, hd, hrest⟩ := hx
    obtain ⟨m, hm⟩ := hok hd
    exact ⟨s ++ t, m, (List.append_assoc s t r.2).symm, hm, hends hrest⟩

theorem closeAfter_cases (missing : ParseError) (e : Expr) (rest : List Token) :
    (∃ rest', rest = .closeParen :: rest' ∧ closeAfter missing (e, rest) = .ok (e, rest')) ∨
      rest.head? ≠ some .closeParen ∧ closeAfter missing (e, rest) = .error missing := by
  unfold closeAfter
  split
  · next heq =>
    cases heq
    exact .inl ⟨_, rfl, rfl⟩
  · next hne =>
    refine .inr ⟨fun h => ?_, rfl⟩
    obtain ⟨rest', rfl⟩ := List.head?_eq_some_iff.1 h
    exact hne _ _ rfl

/-- A chain ends after an operand with which no tail joins up. -/
theorem ends_chain {c : Chain} (h : c.operand.Ends tokens)
    (hjoins : ∀ op, tokens.head? = some (.operator op) → c.joins op = false) :
    (Role.chain c).Ends tokens := by
  intro op hop
  rw [chain_takes, h op hop, hjoins op hop]
  rfl

/-! ## 4. One lemma for each role -/

theorem faithful_factor
    (hsum : ∀ ts, (Role.chain .sum).Faithful ts ((Role.chain .sum).readInner levels ts)) :
    ∀ tokens, Role.factor.Faithful tokens (Role.factor.read levels tokens)
  | [] => by
    rw [read_nil]
    exact faithful_of_fails rfl (.operand .empty)
  | .operator op :: ts => by
    rw [read_operator]
    exact faithful_of_fails rfl (.operand .operator)
  | .closeParen :: ts => by
    rw [read_closeParen]
    exact faithful_of_fails rfl (.operand .closeParen)
  | .letter name :: ts => by
    rw [read_letter]
    exact ⟨[.letter name], 0, rfl, .letter, ends_factor ts⟩
  | .literal text :: ts => by
    rw [read_literal]
    obtain ⟨d, hd, hfin, hvalue⟩ | ⟨error, hvalue, href⟩ := literalValue_cases text
    · rw [hvalue]
      exact ⟨[.literal text], 0, rfl, .number hd hfin, ends_factor ts⟩
    · rw [hvalue]
      exact faithful_of_fails rfl (.operand (href ts))
  | .openParen :: ts => by
    rw [read_group]
    refine faithful_bind (hsum ts) ?_ ?_
    · rintro pre rest error rfl hf
      exact faithful_of_fails rfl (.group hf)
    · rintro s rest e n rfl hd hends
      obtain ⟨rest', rfl, hclose⟩ | ⟨hne, hclose⟩ := closeAfter_cases .missingCloseParen e rest
      · rw [hclose]
        refine ⟨.openParen :: (s ++ [.closeParen]), n + 1, ?_, .group hd, ends_factor rest'⟩
        rw [List.cons_append, List.append_assoc]
        rfl
      · rw [hclose]
        exact faithful_of_fails rfl (.groupClose hd hends hne)
  | .logarithm f :: ts => by
    by_cases hopen : ts.head? = some .openParen
    · obtain ⟨ts, rfl⟩ := List.head?_eq_some_iff.1 hopen
      rw [read_call]
      refine faithful_bind (hsum ts) ?_ ?_
      · rintro pre rest error rfl hf
        exact faithful_of_fails rfl (.call hf)
      · rintro s rest e n rfl hd hends
        obtain ⟨rest', rfl, hclose⟩ | ⟨hne, hclose⟩ :=
          closeAfter_cases (.missingArgumentClose f) e rest
        · rw [hclose]
          refine faithful_checkHeight (e := .call f e) ?_
          refine ⟨.logarithm f :: .openParen :: (s ++ [.closeParen]), n + 1, ?_, .call hd,
            ends_factor rest'⟩
          rw [List.cons_append, List.cons_append, List.append_assoc]
          rfl
        · rw [hclose]
          exact faithful_of_fails rfl (.callClose hd hends hne)
    · rw [read_name levels f hopen]
      exact faithful_of_fails rfl (.callOpen hopen)

theorem faithful_power
    (hfactor : ∀ ts, Role.factor.Faithful ts (Role.factor.read levels ts))
    (hpower : ∀ ts, Role.power.Faithful ts (Role.power.readInner levels ts)) (tokens : List Token) :
    Role.power.Faithful tokens (Role.power.read levels tokens) := by
  rw [read_power]
  refine faithful_bind (hfactor tokens) ?_ ?_
  · rintro pre rest error heq hf
    exact faithful_of_fails heq (.base hf)
  · rintro s rest base m rfl hd -
    dsimp only
    split
    · next rest =>
      refine faithful_bind (hpower rest) ?_ ?_
      · rintro pre rest error rfl hf
        refine faithful_of_fails ?_ (.raise hd hf)
        rw [List.append_assoc, List.cons_append]
      · rintro t rest exponent n rfl ht hends
        refine faithful_checkHeight (e := .binary .power base exponent) ?_
        refine ⟨s ++ .operator .power :: t, max m (n + 1), ?_, .raise hd ht, hends⟩
        rw [List.append_assoc, List.cons_append]
    · next hne =>
      refine ⟨s, m, rfl, .base hd, fun op hop => ?_⟩
      obtain ⟨rest', rfl⟩ := List.head?_eq_some_iff.1 hop
      cases op with
      | power => exact absurd rfl (hne rest')
      | _ => rfl

theorem faithful_tail {c : Chain}
    (hoperand : ∀ ts, c.operand.Faithful ts (c.operand.read levels ts)) (left : Expr)
    (tokens : List Token) (hends : c.operand.Ends tokens) :
    (Role.tail c left).Faithful tokens ((Role.tail c left).read levels tokens) := by
  -- every round takes the operator that it begins with
  induction hk : tokens.length using Nat.strongRecOn generalizing left tokens with
  | ind k ih =>
    by_cases hjoin : ∃ op ts, tokens = .operator op :: ts ∧ c.joins op = true
    · obtain ⟨op, ts, rfl, hop⟩ := hjoin
      rw [read_join levels c hop]
      refine faithful_bind (hoperand ts) ?_ ?_
      · rintro pre rest error rfl hf
        exact faithful_of_fails rfl (.right hop hf)
      · rintro s rest right n rfl hd hrest
        refine faithful_checkHeight ?_
        have hlt : rest.length < k := by
          rw [← hk, List.length_cons, List.length_append]
          exact Nat.lt_succ_of_le (Nat.le_add_left _ _)
        refine faithful_append (s := .operator op :: s) (ih _ hlt _ rest hrest rfl)
          (fun hf => .join hop hd hf) (fun ht => ⟨_, .join hop hd ht⟩) ?_
        exact fun hends => (ends_tail _).2 ((ends_tail _).1 hends)
    · have hjoins : ∀ op, tokens.head? = some (.operator op) → c.joins op = false := by
        intro op hop
        obtain ⟨ts, rfl⟩ := List.head?_eq_some_iff.1 hop
        exact Bool.eq_false_iff.2 fun h => hjoin ⟨op, ts, rfl, h⟩
      rw [read_done levels c left hjoins]
      exact ⟨[], 0, rfl, .done, (ends_tail left).2 (ends_chain hends hjoins)⟩

theorem faithful_chain {c : Chain}
    (hoperand : ∀ ts, c.operand.Faithful ts (c.operand.read levels ts)) (tokens : List Token) :
    (Role.chain c).Faithful tokens ((Role.chain c).read levels tokens) := by
  rw [read_chain]
  refine faithful_bind (hoperand tokens) ?_ ?_
  · rintro pre rest error heq hf
    exact faithful_of_fails heq (.first hf)
  · rintro s rest first n rfl hd hends
    exact faithful_append (faithful_tail hoperand first rest hends) (fun hf => .tail hd hf)
      (fun ht => ⟨_, .chain hd ht⟩) (ends_tail first).1

end ParsingLemmas

/-- The grammar bears out what is read in a sum or in a power. -/
theorem faithful_read (levels : Nat) :
    (∀ ts, (Role.chain .sum).Faithful ts ((Role.chain .sum).read levels ts)) ∧
      ∀ ts, Role.power.Faithful ts (Role.power.read levels ts) := by
  -- with what is read one level further in, the roles follow from the innermost outwards
  have outwards (levels : Nat)
      (hsum : ∀ ts, (Role.chain .sum).Faithful ts ((Role.chain .sum).readInner levels ts))
      (hpower : ∀ ts, Role.power.Faithful ts (Role.power.readInner levels ts)) :
      (∀ ts, (Role.chain .sum).Faithful ts ((Role.chain .sum).read levels ts)) ∧
        ∀ ts, Role.power.Faithful ts (Role.power.read levels ts) := by
    have power := faithful_power (faithful_factor hsum) hpower
    have product := faithful_chain (c := .product) power
    exact ⟨faithful_chain product, power⟩
  induction levels with
  | zero => exact outwards 0 (fun _ => .inl rfl) (fun _ => .inl rfl)
  | succ levels ih => exact outwards (levels + 1) ih.1 ih.2

/-! ## 5. The parser -/

/-- An expression of the grammar is what is parsed, unless it exceeds a bound. -/
theorem parse_of_derives {tokens : List Token} {e : Expr} {n : Nat}
    (h : Derives (.chain .sum) tokens e n) :
    parse tokens = if n ≤ maxDepth ∧ e.height ≤ maxDepth then .ok e else .error .tooDeep := by
  have hread := read_of_derives h maxDepth (ends_nil _) trivial
  rw [List.append_nil] at hread
  rw [parse_eq, hread, bounded]
  split <;> rfl

/-- What is parsed is an expression of the grammar. -/
theorem isFormula_of_parse {tokens : List Token} {e : Expr} (h : parse tokens = .ok e) :
    IsFormula tokens e := by
  have hread := (faithful_read maxDepth).1 tokens
  rw [parse_eq] at h
  cases hx : (Role.chain .sum).read maxDepth tokens with
  | error error =>
    rw [hx] at h
    cases h
  | ok r =>
    obtain ⟨e', rest⟩ := r
    rw [hx] at h hread
    obtain ⟨s, n, rfl, hd, -⟩ := hread
    cases rest with
    | nil =>
      cases h
      exact ⟨n, (List.append_nil s).symm ▸ hd⟩
    | cons t rest => cases h

/-- The parser gives the one expression of the grammar, unless it is too high or needs too many
levels of nesting. -/
theorem parse_correct (tokens : List Token) :
    (∀ e e', IsFormula tokens e → IsFormula tokens e' → e = e') ∧
      (∀ e, parse tokens = .ok e ↔
        ∃ n, Derives (.chain .sum) tokens e n ∧ e.height ≤ 256 ∧ n ≤ 256) ∧
      ∀ e n, Derives (.chain .sum) tokens e n → (256 < e.height ∨ 256 < n) →
        parse tokens = .error .tooDeep := by
  refine ⟨?_, fun e => ⟨?_, ?_⟩, ?_⟩
  · rintro e e' ⟨n, hd⟩ ⟨n', hd'⟩
    exact (derives_unique hd hd' rfl (ends_nil _) (ends_nil _)).2.1
  · intro h
    obtain ⟨n, hd⟩ := isFormula_of_parse h
    rw [parse_of_derives hd] at h
    split at h
    · next hbounds => exact ⟨n, hd, hbounds.2, hbounds.1⟩
    · cases h
  · rintro ⟨n, hd, he, hn⟩
    rw [parse_of_derives hd]
    exact if_pos ⟨hn, he⟩
  · intro e n hd hbound
    rw [parse_of_derives hd]
    refine if_neg fun h => ?_
    cases hbound with
    | inl he => exact Nat.not_le.2 he h.2
    | inr hn => exact Nat.not_le.2 hn h.1

end Formulary

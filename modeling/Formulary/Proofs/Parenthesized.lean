import Formulary.Proofs.Writing

/-!
# Fully parenthesized formulas

Every operator is written with parentheses around its operands, whether it needs them or not, and
nothing stands between the tokens. Such a text has no other reading. But every operator takes a
level of nesting, and the right operand of `^` two, so that the bound on nesting can come before the
bound on heights.

* `e.parenthesized`: the tokens of `e`, with all these parentheses.
* `e.source`: their text.
* `e.nesting`: the largest number of parentheses, arguments and right operands of `^` open at once.

Results.
* The tokens derive the expression with this nesting and no other (`derives_parenthesized`).
* The text gives the expression back exactly if both bounds are kept (`parse_source`).
-/

namespace Formulary

open GrammarLemmas ParsingLemmas ScanningLemmas WritingLemmas

/-! ## 1. The text -/

/-- The expression in text, with parentheses around every operator and its operands. -/
def Expr.source : Expr → String
  | number value => Number.plainText value
  | var name => String.singleton name
  | call f argument => f.text ++ "(" ++ argument.source ++ ")"
  | binary op left right => "(" ++ left.source ++ String.singleton op.char ++ right.source ++ ")"

/-- The tokens of this text. -/
def Expr.parenthesized : Expr → List Token
  | number value => [.literal (Number.plainText value)]
  | var name => [.letter name]
  | call f argument => .logarithm f :: .openParen :: (argument.parenthesized ++ [.closeParen])
  | binary op left right =>
    .openParen :: (left.parenthesized ++ .operator op :: right.parenthesized ++ [.closeParen])

/-- The largest number of parentheses, arguments and right operands of `^` open at once in it. -/
def Expr.nesting : Expr → Nat
  | number _ => 0
  | var _ => 0
  | call _ argument => 1 + argument.nesting
  | binary op left right =>
    1 + max left.nesting (right.nesting + if op = .power then 1 else 0)

/-! ## 2. What the tokens derive -/

/-- The tokens derive the expression as a factor, with its nesting. -/
theorem derives_parenthesized {e : Expr} (h : e.Writable) :
    Derives .factor e.parenthesized e e.nesting := by
  induction e with
  | number value => exact derives_plainText h
  | var name => exact .letter
  | call f argument ih =>
    rw [Expr.nesting, Nat.add_comm]
    exact .call (derives_of_factor trivial (ih h))
  | binary op left right ihl ihr =>
    rw [Expr.nesting, Nat.add_comm, Expr.parenthesized]
    by_cases hpower : op = .power
    · subst hpower
      have hraise := Derives.raise (ihl h.1) (.base (ihr h.2))
      exact .group (derives_of_power trivial rfl hraise)
    · obtain ⟨c, hop, -⟩ := exists_chain hpower left right
      have hright : c.operand.Whole := by cases c <;> trivial
      have hjoin := Derives.chain_join hop (derives_of_factor trivial (ihl h.1))
        (derives_of_factor hright (ihr h.2))
      rw [if_neg hpower]
      exact .group (derives_of_chain trivial hop (by cases op <;> rfl) hjoin)

/-! ## 3. What the text is made of -/

/-- The tokens before a layout, without blank characters. -/
def Expr.layout : Expr → Layout → Layout
  | number value, rest => .token [] (.literal (Number.plainText value)) rest
  | var name, rest => .token [] (.letter name) rest
  | call f argument, rest =>
    .token [] (.logarithm f) (.token [] .openParen (argument.layout (.token [] .closeParen rest)))
  | binary op left right, rest =>
    .token [] .openParen (left.layout (.token [] (.operator op)
      (right.layout (.token [] .closeParen rest))))

namespace ParenthesizedLemmas

theorem chars_layout (e : Expr) (rest : Layout) :
    (e.layout rest).chars = e.source.toList ++ rest.chars := by
  induction e generalizing rest with
  | number value => rfl
  | var name => rfl
  | call f argument ih => simp [Expr.layout, Layout.chars, Expr.source, Token.text, ih]
  | binary op left right ihl ihr =>
    simp [Expr.layout, Layout.chars, Expr.source, Token.text, ihl, ihr]

theorem tokens_layout (e : Expr) (rest : Layout) :
    (e.layout rest).tokens = e.parenthesized ++ rest.tokens := by
  induction e generalizing rest with
  | number value => rfl
  | var name => rfl
  | call f argument ih => simp [Expr.layout, Layout.tokens, Expr.parenthesized, ih]
  | binary op left right ihl ihr =>
    simp [Expr.layout, Layout.tokens, Expr.parenthesized, ihl, ihr]

/-- Between parentheses and operators no two runs meet. -/
theorem proper_layout {e : Expr} (h : e.Writable) {rest : Layout} (hrest : rest.Proper)
    (hparted : rest.Parted) : (e.layout rest).Proper := by
  induction e generalizing rest with
  | number value =>
    exact ⟨List.forall_mem_nil _, wellFormed_plainText h, fun _ => hparted, hrest⟩
  | var name => exact ⟨List.forall_mem_nil _, h, fun _ => hparted, hrest⟩
  | call f argument ih =>
    obtain ⟨hclose, hcloses⟩ := proper_token (t := .closeParen) rfl hrest
    have hopen := proper_token (t := .openParen) rfl (ih h hclose hcloses)
    exact (proper_token rfl hopen.1).1
  | binary op left right ihl ihr =>
    obtain ⟨hclose, hcloses⟩ := proper_token (t := .closeParen) rfl hrest
    obtain ⟨hop, hops⟩ := proper_token (t := .operator op) rfl (ihr h.2 hclose hcloses)
    exact (proper_token rfl (ihl h.1 hop hops)).1

end ParenthesizedLemmas

open ParenthesizedLemmas

/-- The tokens of the text. -/
theorem tokenize_source {e : Expr} (h : e.Writable) : tokenize e.source = e.parenthesized := by
  have hfinish : (Layout.finish []).Proper := List.forall_mem_nil _
  have hlayout := proper_layout h hfinish trivial
  rw [tokenize_of_layout hlayout ((chars_layout e _).trans (List.append_nil _)), tokens_layout]
  exact List.append_nil _

/-! ## 4. What the text gives back -/

/-- The fully parenthesized text gives the expression back, unless it is too high or its operators
are nested too deeply. -/
theorem parse_source {e : Expr} (h : e.Writable) :
    (e.nesting ≤ 256 ∧ e.height ≤ 256 → parse (tokenize e.source) = .ok e) ∧
      (¬ (e.nesting ≤ 256 ∧ e.height ≤ 256) →
        parse (tokenize e.source) = .error .tooDeep) := by
  have hsum : Derives (.chain .sum) e.parenthesized e e.nesting :=
    derives_of_factor trivial (derives_parenthesized h)
  rw [tokenize_source h, parse_of_derives hsum]
  exact ⟨fun hbounds => if_pos hbounds, fun hbounds => if_neg hbounds⟩

/-- In `(ln(l)^2.5)` the letter `l` stands after a name that begins with it. -/
theorem parse_source_power :
    (Expr.binary .power (.call .natural (.var 'l')) (.number 2.5)).Writable ∧
      parse (tokenize "(ln(l)^2.5)") =
        .ok (.binary .power (.call .natural (.var 'l')) (.number 2.5)) := by
  have hwritable : (Expr.binary .power (.call .natural (.var 'l')) (.number 2.5)).Writable := by
    refine ⟨?_, ?_⟩
    · show 'l'.isAlpha = true
      decide
    · show Number.IsUnsigned 2.5
      unfold Number.IsUnsigned
      decide +kernel
  have hsource : (Expr.binary .power (.call .natural (.var 'l')) (.number 2.5)).source =
      "(ln(l)^2.5)" := by
    decide +kernel
  rw [← hsource]
  exact ⟨hwritable, (parse_source hwritable).1 (by decide)⟩

end Formulary

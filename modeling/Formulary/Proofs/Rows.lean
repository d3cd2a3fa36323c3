import Formulary.Expr.Markup
import Formulary.Proofs.Writing

/-!
# What markup shows

In markup, `+`, `-` and `*` stand in line, without parentheses around what they join. So markup does
not show an expression, but rows of atoms: which sums, differences and products are operands of
which is lost, and nothing else.

* `Row`, `Atom`, `Base`: atoms joined in line; numbers, variables, logarithms, fractions and powers;
  what can be raised to a power.
* `e.row`: the row that the markup of `e` shows.
* `row.Writable`: the numbers and variables in it are those that a formula can hold.

Results.
* The markup of an expression is that of its row (`markup_eq`).
* Markup has one reading as a row, whatever stands after it (`row_unique`).
* Expressions have the same markup exactly if they have the same row (`render_eq_iff`).
-/

namespace Formulary

/-! ## 1. Rows -/

/-- The operators that stand in line. -/
inductive Join
  | add
  | subtract
  | multiply
deriving DecidableEq, Repr

mutual

/-- Atoms joined in line. -/
inductive Row
  | single (atom : Atom)
  | cons (atom : Atom) (op : Join) (rest : Row)

/-- What is joined in line. -/
inductive Atom
  | plain (base : Base)
  | fraction (above below : Row)
  | power (base : Base) (exponent : Row)

/-- What can be raised to a power. Only there a row is grouped by parentheses. -/
inductive Base
  | number (value : Float)
  | var (name : Char)
  | call (function : Logarithm) (argument : Row)
  | group (inner : Row)

end

/-- Two rows in one. -/
def Row.append : Row → Join → Row → Row
  | single atom, op, row => cons atom op row
  | cons atom op' rest, op, row => cons atom op' (rest.append op row)

/-- The row as what is raised to a power: in parentheses, unless it is a number, a variable or a
logarithm alone. -/
def Row.base : Row → Base
  | single (.plain base) => base
  | row => .group row

/-- The row that the expression has in markup. -/
def Expr.row : Expr → Row
  | number value => .single (.plain (.number value))
  | var name => .single (.plain (.var name))
  | call f argument => .single (.plain (.call f argument.row))
  | binary .add left right => left.row.append .add right.row
  | binary .subtract left right => left.row.append .subtract right.row
  | binary .multiply left right => left.row.append .multiply right.row
  | binary .divide left right => .single (.fraction left.row right.row)
  | binary .power left right => .single (.power left.row.base right.row)

/-! ## 2. The markup of a row -/

/-- The operator between two atoms. -/
def Join.markup : Join → List Char
  | add => " + ".toList
  | subtract => " - ".toList
  | multiply => " \\cdot ".toList

mutual

/-- The markup of a row. -/
def Row.markup : Row → List Char
  | .single atom => atom.markup
  | .cons atom op rest => atom.markup ++ (op.markup ++ rest.markup)

/-- The markup of an atom. -/
def Atom.markup : Atom → List Char
  | .plain base => base.markup
  | .fraction above below =>
    "\\frac\x7b".toList ++ (above.markup ++ ("\x7d\x7b".toList ++ (below.markup ++ "\x7d".toList)))
  | .power base exponent => base.markup ++ ("^\x7b".toList ++ (exponent.markup ++ "\x7d".toList))

/-- The markup of a base. -/
def Base.markup : Base → List Char
  | .number value => Number.plain value
  | .var name => [name]
  | .call f argument => f.markup ++ (argument.markup ++ [')'])
  | .group inner => "\\left(".toList ++ (inner.markup ++ "\\right)".toList)

end

namespace RowLemmas

theorem markup_append : ∀ (row : Row) (op : Join) (row' : Row),
    (row.append op row').markup = row.markup ++ (op.markup ++ row'.markup)
  | .single _, _, _ => rfl
  | .cons atom op' rest, op, row' => by
    rw [Row.append, Row.markup, markup_append rest, Row.markup, List.append_assoc,
      List.append_assoc]

theorem base_append : ∀ (row : Row) (op : Join) (row' : Row),
    (row.append op row').base = .group (row.append op row')
  | .single _, _, _ => rfl
  | .cons _ _ _, _, _ => rfl

/-- What is an operator is grouped, and nothing else. -/
theorem base_row_of_isBinary {e : Expr} (h : e.isBinary = true) : e.row.base = .group e.row := by
  cases e with
  | binary op left right =>
    cases op with
    | divide => rfl
    | power => rfl
    | _ => exact base_append _ _ _
  | _ => cases h

theorem row_of_not_isBinary {e : Expr} (h : e.isBinary = false) :
    e.row = .single (.plain e.row.base) := by
  cases e with
  | binary _ _ _ => cases h
  | _ => rfl

end RowLemmas

open WritingLemmas RowLemmas

/-- The markup of an expression is that of its row. -/
theorem markup_eq (e : Expr) : e.markup = e.row.markup := by
  induction e with
  | number value => rfl
  | var name => rfl
  | call f argument ih =>
    rw [Expr.markup.eq_def]
    dsimp only
    rw [ih, List.append_assoc]
    rfl
  | binary op left right ihl ihr =>
    cases op with
    | divide =>
      rw [Expr.markup.eq_def]
      simp only [ihl, ihr, List.append_assoc]
      rfl
    | power =>
      rw [Expr.markup.eq_def]
      dsimp only
      rw [Expr.row, Row.markup, Atom.markup.eq_def]
      dsimp only
      cases hbinary : left.isBinary with
      | true =>
        rw [if_pos rfl, base_row_of_isBinary hbinary, Base.markup.eq_def, ihl, ihr]
        simp only [List.append_assoc]
      | false =>
        have hleft : left.row.markup = left.row.base.markup := by
          rw [row_of_not_isBinary hbinary]
          rfl
        rw [if_neg Bool.false_ne_true, ihl, ihr, hleft]
        simp only [List.append_assoc]
    | _ =>
      rw [Expr.markup.eq_def, Expr.row, markup_append]
      simp only [ihl, ihr, List.append_assoc]
      rfl

/-! ## 3. Rows that a formula can have -/

mutual

/-- The numbers of the row are finite and without a minus sign, its variables are ASCII letters. -/
def Row.Writable : Row → Prop
  | .single atom => atom.Writable
  | .cons atom _ rest => atom.Writable ∧ rest.Writable

/-- The same of an atom. -/
def Atom.Writable : Atom → Prop
  | .plain base => base.Writable
  | .fraction above below => above.Writable ∧ below.Writable
  | .power base exponent => base.Writable ∧ exponent.Writable

/-- The same of a base. -/
def Base.Writable : Base → Prop
  | .number value => Number.IsUnsigned value
  | .var name => name.isAlpha = true
  | .call _ argument => argument.Writable
  | .group inner => inner.Writable

end

namespace RowLemmas

theorem writable_append : ∀ {row row' : Row} (op : Join), row.Writable → row'.Writable →
    (row.append op row').Writable
  | .single _, _, _, h, h' => ⟨h, h'⟩
  | .cons _ _ _, _, op, h, h' => ⟨h.1, writable_append op h.2 h'⟩

theorem writable_base : ∀ {row : Row}, row.Writable → row.base.Writable
  | .single (.plain _), h => h
  | .single (.fraction _ _), h => h
  | .single (.power _ _), h => h
  | .cons _ _ _, h => h

end RowLemmas

theorem writable_row {e : Expr} (h : e.Writable) : e.row.Writable := by
  induction e with
  | number value => exact h
  | var name => exact h
  | call f argument ih => exact ih h
  | binary op left right ihl ihr =>
    have hl := ihl h.1
    have hr := ihr h.2
    cases op with
    | divide => exact ⟨hl, hr⟩
    | power => exact ⟨writable_base hl, hr⟩
    | _ => exact writable_append _ hl hr

/-! ## 4. What markup begins with -/

/-- What an atom begins with. -/
inductive Lead
  | number
  | letter
  | call (function : Logarithm)
  | group
  | fraction

/-- What the markup begins with: a backslash begins three kinds of atoms, which the characters after
it tell apart. -/
def Lead.ofChars : List Char → Lead
  | '\\' :: 'f' :: _ => fraction
  | '\\' :: 'l' :: 'e' :: _ => group
  | '\\' :: 'l' :: 'n' :: _ => call .natural
  | '\\' :: 'l' :: 'o' :: _ => call .common
  | c :: _ => if c.isAlpha then letter else number
  | [] => number

/-- What the base begins with. -/
def Base.lead : Base → Lead
  | number _ => .number
  | var _ => .letter
  | call f _ => .call f
  | group _ => .group

/-- What the atom begins with. -/
def Atom.lead : Atom → Lead
  | plain base => base.lead
  | fraction _ _ => .fraction
  | power base _ => base.lead

namespace RowLemmas

theorem ofChars_of_ne {c : Char} (h : c ≠ '\\') (rest : List Char) :
    Lead.ofChars (c :: rest) = if c.isAlpha then .letter else .number := by
  unfold Lead.ofChars
  split <;> simp_all

/-- The characters of numbers. -/
def isNumeric (c : Char) : Bool :=
  c.isDigit || c == '.'

theorem plain_numeric {x : Float} (h : Number.IsUnsigned x) :
    Number.plain x ≠ [] ∧ ∀ c ∈ Number.plain x, isNumeric c = true := by
  obtain ⟨d, hd, -⟩ := Number.exists_isNumeral_plain h
  obtain ⟨hne, hchars⟩ := chars_isNumeral hd
  refine ⟨hne, fun c hc => ?_⟩
  obtain hdigit | rfl := hchars c hc
  · rw [isNumeric, hdigit]
    rfl
  · rfl

theorem of_isNumeric {c : Char} (h : isNumeric c = true) : c ≠ '\\' ∧ c.isAlpha = false := by
  rw [isNumeric, Bool.or_eq_true, beq_iff_eq] at h
  obtain hdigit | rfl := h
  · refine ⟨?_, (plain_of_isDigit hdigit).2.2.2⟩
    rintro rfl
    cases hdigit
  · decide

theorem lead_base {base : Base} (h : base.Writable) (rest : List Char) :
    Lead.ofChars (base.markup ++ rest) = base.lead := by
  cases base with
  | number value =>
    obtain ⟨hne, hnumeric⟩ := plain_numeric h
    obtain ⟨c, s, hs⟩ := List.exists_cons_of_ne_nil hne
    obtain ⟨hslash, halpha⟩ := of_isNumeric (hnumeric c (hs ▸ List.mem_cons_self))
    show Lead.ofChars (Number.plain value ++ rest) = .number
    rw [hs, List.cons_append, ofChars_of_ne hslash, halpha]
    rfl
  | var name =>
    have halpha : name.isAlpha = true := h
    have hslash : name ≠ '\\' := by
      rintro rfl
      cases halpha
    show Lead.ofChars (name :: rest) = .letter
    rw [ofChars_of_ne hslash, halpha]
    rfl
  | call f argument => cases f <;> rfl
  | group inner => rfl

theorem lead_atom {atom : Atom} (h : atom.Writable) (rest : List Char) :
    Lead.ofChars (atom.markup ++ rest) = atom.lead := by
  cases atom with
  | plain base => exact lead_base h rest
  | fraction above below => rfl
  | power base exponent =>
    rw [Atom.markup.eq_def, List.append_assoc]
    exact lead_base h.1 _

end RowLemmas

/-! ## 5. Where a row ends -/

/-- Nothing comes after, or one of these characters. -/
def Stops (chars : List Char) (rest : List Char) : Prop :=
  ∀ c, rest.head? = some c → c ∈ chars

theorem Stops.cons {chars rest : List Char} (h : Stops chars rest) (c : Char) :
    Stops (c :: chars) rest :=
  fun d hd => List.mem_cons_of_mem c (h d hd)

/-- What comes after a row, inside an expression. -/
def Row.stops : List Char := [')', '}', '\\']

/-- What comes after an atom: the space before an operator, or what comes after the row. -/
def Atom.stops : List Char := ' ' :: Row.stops

/-- What comes after a base: the `^` of its exponent, or what comes after the atom. -/
def Base.stops : List Char := '^' :: Atom.stops

namespace RowLemmas

theorem stops_nil (chars : List Char) : Stops chars [] := by
  intro c h
  cases h

theorem stops_cons {c : Char} {chars : List Char} (h : c ∈ chars) (rest : List Char) :
    Stops chars (c :: rest) := by
  intro d hd
  cases hd
  exact h

theorem not_stops {c : Char} {chars : List Char} (h : c ∉ chars) (rest : List Char) :
    ¬ Stops chars (c :: rest) :=
  fun hstops => h (hstops c rfl)

theorem stops_brace (rest : List Char) : Stops Row.stops ('\x7d' :: rest) :=
  stops_cons (by decide) rest

theorem stops_paren (rest : List Char) : Stops Row.stops (')' :: rest) :=
  stops_cons (by decide) rest

theorem stops_backslash (rest : List Char) : Stops Row.stops ("\\right)".toList ++ rest) :=
  stops_cons (c := '\\') (by decide) _

/-- A number ends where its characters end. -/
theorem plain_unique {x y : Float} {rest rest' : List Char} (hx : Number.IsUnsigned x)
    (hy : Number.IsUnsigned y) (hrest : Stops Base.stops rest) (hrest' : Stops Base.stops rest')
    (heq : Number.plain x ++ rest = Number.plain y ++ rest') : x = y ∧ rest = rest' := by
  have takes {z : Float} {r : List Char} (hz : Number.IsUnsigned z) (hr : Stops Base.stops r) :
      (Number.plain z ++ r).takeWhile isNumeric = Number.plain z := by
    rw [List.takeWhile_append_of_pos (plain_numeric hz).2]
    cases r with
    | nil => exact List.append_nil _
    | cons c r =>
      have hnot : ∀ d ∈ Base.stops, isNumeric d = false := by
        simp [Base.stops, Atom.stops, Row.stops, isNumeric]
      rw [List.takeWhile_cons, hnot c (hr c rfl)]
      exact List.append_nil _
  have hplain : Number.plain x = Number.plain y := by
    rw [← takes hx hrest, heq, takes hy hrest']
  refine ⟨?_, List.append_cancel_left (hplain ▸ heq)⟩
  obtain ⟨d, hd, rfl⟩ := Number.exists_isNumeral_plain hx
  obtain ⟨d', hd', rfl⟩ := Number.exists_isNumeral_plain hy
  rw [hplain] at hd
  rw [hd.unique hd']

/-- The operators begin with a space, and what comes next tells them apart. -/
theorem join_unique {op op' : Join} {rest rest' : List Char}
    (heq : op.markup ++ rest = op'.markup ++ rest') : op = op' ∧ rest = rest' := by
  have hop : op = op' := by
    cases op <;> cases op' <;> first | rfl | cases heq
  subst hop
  exact ⟨rfl, List.append_cancel_left heq⟩

theorem stops_join (op : Join) (rest : List Char) : Stops Atom.stops (op.markup ++ rest) := by
  cases op <;> exact stops_cons List.mem_cons_self _

theorem not_stops_join (op : Join) (rest : List Char) :
    ¬ Stops Row.stops (op.markup ++ rest) := by
  cases op <;> exact not_stops (by decide) _

/-! ## 6. Markup has one reading -/

theorem markup_cons_append (atom : Atom) (op : Join) (tail : Row) (rest : List Char) :
    (Row.cons atom op tail).markup ++ rest =
      atom.markup ++ (op.markup ++ (tail.markup ++ rest)) := by
  rw [Row.markup, List.append_assoc, List.append_assoc]

theorem markup_fraction_append (above below : Row) (rest : List Char) :
    (Atom.fraction above below).markup ++ rest =
      "\\frac\x7b".toList ++
        (above.markup ++ '\x7d' :: '\x7b' :: (below.markup ++ '\x7d' :: rest)) := by
  rw [Atom.markup.eq_def]
  simp only [List.append_assoc]
  rfl

theorem markup_power_append (base : Base) (exponent : Row) (rest : List Char) :
    (Atom.power base exponent).markup ++ rest =
      base.markup ++ '^' :: '\x7b' :: (exponent.markup ++ '\x7d' :: rest) := by
  rw [Atom.markup.eq_def]
  simp only [List.append_assoc]
  rfl

theorem markup_call_append (f : Logarithm) (argument : Row) (rest : List Char) :
    (Base.call f argument).markup ++ rest = f.markup ++ (argument.markup ++ ')' :: rest) := by
  rw [Base.markup.eq_def]
  simp only [List.append_assoc]
  rfl

theorem markup_group_append (inner : Row) (rest : List Char) :
    (Base.group inner).markup ++ rest =
      "\\left(".toList ++ (inner.markup ++ ("\\right)".toList ++ rest)) := by
  rw [Base.markup.eq_def]
  simp only [List.append_assoc]

end RowLemmas

mutual

/-- Markup has one reading as a row, whatever stands after it. -/
theorem row_unique {row row' : Row} {rest rest' : List Char} (h : row.Writable)
    (h' : row'.Writable) (hrest : Stops Row.stops rest) (hrest' : Stops Row.stops rest')
    (heq : row.markup ++ rest = row'.markup ++ rest') : row = row' ∧ rest = rest' := by
  cases row with
  | single atom =>
    cases row' with
    | single atom' =>
      obtain ⟨rfl, rfl⟩ := atom_unique h h' (hrest.cons ' ') (hrest'.cons ' ') heq
      exact ⟨rfl, rfl⟩
    | cons atom' op' tail' =>
      rw [markup_cons_append] at heq
      obtain ⟨-, rfl⟩ := atom_unique h h'.1 (hrest.cons ' ') (stops_join op' _) heq
      exact absurd hrest (not_stops_join op' _)
  | cons atom op tail =>
    cases row' with
    | single atom' =>
      rw [markup_cons_append] at heq
      obtain ⟨-, rfl⟩ := atom_unique h.1 h' (stops_join op _) (hrest'.cons ' ') heq
      exact absurd hrest' (not_stops_join op _)
    | cons atom' op' tail' =>
      rw [markup_cons_append, markup_cons_append] at heq
      obtain ⟨rfl, htail⟩ := atom_unique h.1 h'.1 (stops_join op _) (stops_join op' _) heq
      obtain ⟨rfl, hrests⟩ := join_unique htail
      obtain ⟨rfl, rfl⟩ := row_unique h.2 h'.2 hrest hrest' hrests
      exact ⟨rfl, rfl⟩

/-- The same of an atom. -/
theorem atom_unique {atom atom' : Atom} {rest rest' : List Char} (h : atom.Writable)
    (h' : atom'.Writable) (hrest : Stops Atom.stops rest) (hrest' : Stops Atom.stops rest')
    (heq : atom.markup ++ rest = atom'.markup ++ rest') : atom = atom' ∧ rest = rest' := by
  have hlead : atom.lead = atom'.lead := by
    rw [← lead_atom h rest, heq, lead_atom h' rest']
  cases atom with
  | plain base =>
    cases atom' with
    | plain base' =>
      obtain ⟨rfl, rfl⟩ := base_unique h h' (hrest.cons '^') (hrest'.cons '^') heq
      exact ⟨rfl, rfl⟩
    | fraction _ _ => cases base <;> cases hlead
    | power base' exponent' =>
      rw [markup_power_append] at heq
      obtain ⟨-, rfl⟩ :=
        base_unique h h'.1 (hrest.cons '^') (stops_cons List.mem_cons_self _) heq
      exact absurd hrest (not_stops (by decide) _)
  | fraction above below =>
    cases atom' with
    | plain base' => cases base' <;> cases hlead
    | fraction above' below' =>
      rw [markup_fraction_append, markup_fraction_append] at heq
      obtain ⟨rfl, hbelow⟩ :=
        row_unique h.1 h'.1 (stops_brace _) (stops_brace _) (List.append_cancel_left heq)
      obtain ⟨rfl, hrests⟩ :=
        row_unique h.2 h'.2 (stops_brace _) (stops_brace _)
          (List.cons.inj (List.cons.inj hbelow).2).2
      exact ⟨rfl, (List.cons.inj hrests).2⟩
    | power base' _ => cases base' <;> cases hlead
  | power base exponent =>
    cases atom' with
    | plain base' =>
      rw [markup_power_append] at heq
      obtain ⟨-, rfl⟩ :=
        base_unique h.1 h' (stops_cons List.mem_cons_self _) (hrest'.cons '^') heq
      exact absurd hrest' (not_stops (by decide) _)
    | fraction _ _ => cases base <;> cases hlead
    | power base' exponent' =>
      rw [markup_power_append, markup_power_append] at heq
      obtain ⟨rfl, hexponent⟩ := base_unique h.1 h'.1 (stops_cons List.mem_cons_self _)
        (stops_cons List.mem_cons_self _) heq
      obtain ⟨rfl, hrests⟩ := row_unique h.2 h'.2 (stops_brace _) (stops_brace _)
        (List.cons.inj (List.cons.inj hexponent).2).2
      exact ⟨rfl, (List.cons.inj hrests).2⟩

/-- The same of a base. -/
theorem base_unique {base base' : Base} {rest rest' : List Char} (h : base.Writable)
    (h' : base'.Writable) (hrest : Stops Base.stops rest) (hrest' : Stops Base.stops rest')
    (heq : base.markup ++ rest = base'.markup ++ rest') : base = base' ∧ rest = rest' := by
  have hlead : base.lead = base'.lead := by
    rw [← lead_base h rest, heq, lead_base h' rest']
  cases base with
  | number value =>
    cases base' with
    | number value' =>
      obtain ⟨rfl, rfl⟩ := plain_unique h h' hrest hrest' heq
      exact ⟨rfl, rfl⟩
    | _ => cases hlead
  | var name =>
    cases base' with
    | var name' =>
      obtain ⟨rfl, rfl⟩ := List.cons.inj heq
      exact ⟨rfl, rfl⟩
    | _ => cases hlead
  | call f argument =>
    cases base' with
    | call f' argument' =>
      cases hlead
      rw [markup_call_append, markup_call_append] at heq
      obtain ⟨rfl, hrests⟩ := row_unique h h' (stops_paren _) (stops_paren _)
        (List.append_cancel_left heq)
      exact ⟨rfl, (List.cons.inj hrests).2⟩
    | _ => cases hlead
  | group inner =>
    cases base' with
    | group inner' =>
      rw [markup_group_append, markup_group_append] at heq
      obtain ⟨rfl, hrests⟩ := row_unique h h' (stops_backslash _) (stops_backslash _)
        (List.append_cancel_left heq)
      exact ⟨rfl, List.append_cancel_left hrests⟩
    | _ => cases hlead

end

/-! ## 7. What markup tells apart -/

/-- Markup gives the row back. -/
theorem row_eq_of_render_eq {a b : Expr} (ha : a.Writable) (hb : b.Writable)
    (h : render a = render b) : a.row = b.row := by
  have hmarkup : a.row.markup ++ [] = b.row.markup ++ [] := by
    rw [← markup_eq, ← markup_eq, String.ofList_injective h]
  exact (row_unique (writable_row ha) (writable_row hb) (stops_nil _) (stops_nil _) hmarkup).1

/-- Two expressions have the same markup exactly if they have the same row: what markup does not
show is the grouping of sums, differences and products. -/
theorem render_eq_iff {a b : Expr} (ha : a.Writable) (hb : b.Writable) :
    render a = render b ↔ a.row = b.row := by
  refine ⟨row_eq_of_render_eq ha hb, fun h => ?_⟩
  rw [render, render, markup_eq, markup_eq, h]

/-- A difference with a difference on its right looks like one with a difference on its left. -/
theorem render_eq_regrouped :
    (Expr.binary .subtract (.var 'x') (.binary .subtract (.var 'y') (.number 2))).Writable ∧
      (Expr.binary .subtract (.binary .subtract (.var 'x') (.var 'y')) (.number 2)).Writable ∧
      render (.binary .subtract (.var 'x') (.binary .subtract (.var 'y') (.number 2))) =
        render (.binary .subtract (.binary .subtract (.var 'x') (.var 'y')) (.number 2)) := by
  have htwo : Number.IsUnsigned 2 := by
    unfold Number.IsUnsigned
    decide +kernel
  have hright : (Expr.binary .subtract (.var 'x')
      (.binary .subtract (.var 'y') (.number 2))).Writable := ⟨rfl, rfl, htwo⟩
  have hleft : (Expr.binary .subtract
      (.binary .subtract (.var 'x') (.var 'y')) (.number 2)).Writable := ⟨⟨rfl, rfl⟩, htwo⟩
  exact ⟨hright, hleft, (render_eq_iff hright hleft).2 rfl⟩

end Formulary

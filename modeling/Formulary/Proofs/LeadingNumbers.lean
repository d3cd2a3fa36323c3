import Formulary.Proofs.Environments
import Formulary.Proofs.TypedValues
import Mathlib.Control.Monad.Basic

/-!
# The number at the start of a text

A number is a numeral with an optional sign before it and an optional power of ten after it.
`IsNumber s x` says so of the text `s` and gives its value `x`; it does not say how a number is
found. What is read at the start of a text is the longest start of it that is a number: an `e`, a
sign or a point that does not go on to digits is left where it is.

* `IsSign s negative`, `IsPower s e`: the form of an optional sign and of an optional power of ten.
* `IsNumber s x`: the form of a number.
* `LongestNumber t s x`: `s` is a number of value `x` with which `t` starts, and no longer start of
  `t` is a number.

Results.
* A number is read to its end (`leading?_of_isNumber`), so that its value is unique
  (`IsNumber.unique`).
* What is read is the longest number with which the text starts (`longestNumber_of_leading?`), and
  nothing is read only if there is none (`leading?_eq_none_iff`).
* A typed text has the value of this number, if that is finite, and 0 otherwise
  (`enteredValue_correct`).
-/

namespace Formulary

namespace Number

open NumeralLemmas

/-! ## 1. The form of a number -/

/-- `s` is an optional sign, which may be a minus. -/
inductive IsSign : List Char → Bool → Prop
  | none : IsSign [] false
  | plus : IsSign ['+'] false
  | minus : IsSign ['-'] true

/-- `s` is an optional power of ten with this exponent: an `e` or `E`, an optional sign and at least
one digit. -/
inductive IsPower : List Char → Int → Prop
  | none : IsPower [] 0
  | ten {c : Char} {sg ds : List Char} {negative : Bool} : c = 'e' ∨ c = 'E' →
      IsSign sg negative → ds ≠ [] → AllDigits ds →
      IsPower (c :: (sg ++ ds)) (if negative then -(digitsValue ds : Int) else digitsValue ds)

/-- `s` is a number of value `x`: an optional sign, a numeral and an optional power of ten. -/
inductive IsNumber : List Char → Signed → Prop
  | mk {sg m p : List Char} {negative : Bool} {d : Decimal} {e : Int} : IsSign sg negative →
      IsNumeral m d → IsPower p e →
      IsNumber (sg ++ (m ++ p)) ⟨negative, ⟨d.coefficient, d.exponent + e⟩⟩

/-- The text `t` starts with the number `s` of value `x`, and with no longer number. -/
structure LongestNumber (t s : List Char) (x : Signed) : Prop where
  start : s <+: t
  number : IsNumber s x
  longest : ∀ s' x', s' <+: t → IsNumber s' x' → s'.length ≤ s.length

variable {s t r rest : List Char} {d : Decimal} {e : Int} {negative : Bool} {x : Signed}

/-! ## 2. What the readers take is of this form -/

namespace LeadingLemmas

theorem exists_isSign (s : List Char) : ∃ sg, IsSign sg (sign s).1 ∧ s = sg ++ (sign s).2 := by
  unfold sign
  split
  · exact ⟨['-'], .minus, rfl⟩
  · exact ⟨['+'], .plus, rfl⟩
  · exact ⟨[], .none, rfl⟩

theorem exists_isPower (s : List Char) : ∃ p, IsPower p (power s).1 ∧ s = p ++ (power s).2 := by
  unfold power
  split
  · exact ⟨[], .none, rfl⟩
  · next c rest =>
    obtain ⟨sg, hsg, hrest⟩ := exists_isSign rest
    dsimp only
    split
    · next hten =>
      rw [Bool.and_eq_true, Bool.or_eq_true, decide_eq_true_iff, decide_eq_true_iff,
        Bool.not_eq_true', List.isEmpty_eq_false_iff] at hten
      refine ⟨_, .ten hten.1 hsg hten.2 (allDigits_takeWhile _), ?_⟩
      rw [List.cons_append, List.append_assoc, List.takeWhile_append_dropWhile, ← hrest]
    · exact ⟨[], .none, rfl⟩

/-- What is left after a power is no longer than before. -/
theorem length_power_le (s : List Char) : (power s).2.length ≤ s.length := by
  obtain ⟨p, -, hs⟩ := exists_isPower s
  have hlength := congrArg List.length hs
  rw [List.length_append] at hlength
  omega

theorem exists_isNumber (h : leading? s = some (x, rest)) :
    ∃ t, IsNumber t x ∧ s = t ++ rest := by
  obtain ⟨sg, hsg, hs⟩ := exists_isSign s
  obtain ⟨⟨d, after⟩, hun, heq⟩ := Option.map_eq_some_iff.1 h
  obtain ⟨m, hm, hafter⟩ := exists_isNumeral_of_unsigned? hun
  obtain ⟨p, hp, hrest⟩ := exists_isPower after
  obtain rfl : rest = (power after).2 := (congrArg Prod.snd heq).symm
  obtain rfl : x = ⟨(sign s).1, ⟨d.coefficient, d.exponent + (power after).1⟩⟩ :=
    (congrArg Prod.fst heq).symm
  refine ⟨_, .mk hsg hm hp, hs.trans ?_⟩
  rw [List.append_assoc, List.append_assoc, ← hrest]
  exact congrArg (sg ++ ·) hafter

/-! ## 3. What is of this form is taken -/

/-- The first character is none of these. -/
def StartsWithout (chars s : List Char) : Prop :=
  ∀ c, s.head? = some c → c ∉ chars

/-- The first character is no digit. -/
def StopsDigits (s : List Char) : Prop :=
  ∀ c, s.head? = some c → c.isDigit = false

theorem startsWithout_nil (chars : List Char) : StartsWithout chars [] := by
  intro c h
  cases h

theorem stopsDigits_nil : StopsDigits [] := by
  intro c h
  cases h

theorem takeWhile_of_stopsDigits (h : StopsDigits r) :
    r.takeWhile Char.isDigit = [] ∧ r.dropWhile Char.isDigit = r := by
  cases r with
  | nil => exact ⟨rfl, rfl⟩
  | cons c r =>
    rw [List.takeWhile_cons, List.dropWhile_cons, h c rfl]
    exact ⟨rfl, rfl⟩

theorem sign_append (h : IsSign s negative) (hr : StartsWithout ['+', '-'] r) :
    sign (s ++ r) = (negative, r) := by
  cases h with
  | none =>
    show sign r = _
    unfold sign
    split
    · exact absurd (by decide) (hr '-' rfl)
    · exact absurd (by decide) (hr '+' rfl)
    · rfl
  | plus => rfl
  | minus => rfl

theorem startsWithout_of_isDigit {c : Char} (h : c.isDigit = true) :
    StartsWithout ['+', '-'] (c :: r) := by
  rintro _ ⟨⟩ hmem
  simp only [List.mem_cons, List.not_mem_nil, or_false] at hmem
  obtain rfl | rfl := hmem <;> cases h

theorem startsWithout_append_of_digits (hne : s ≠ []) (h : AllDigits s) :
    StartsWithout ['+', '-'] (s ++ r) := by
  obtain ⟨c, s, rfl⟩ := List.exists_cons_of_ne_nil hne
  exact startsWithout_of_isDigit (h c List.mem_cons_self)

/-- A numeral begins with a digit or a point, never with a sign. -/
theorem startsWithout_append (h : IsNumeral s d) : StartsWithout ['+', '-'] (s ++ r) := by
  cases h with
  | whole hne hw => exact startsWithout_append_of_digits hne hw
  | @point w f hw hf hne =>
    cases w with
    | nil =>
      rintro _ ⟨⟩
      decide
    | cons c w => exact startsWithout_of_isDigit (hw c List.mem_cons_self)

/-- With a point after the first digits, the digits after the point are taken. -/
theorem unsigned?_point {w : List Char} (hw : AllDigits w) (s : List Char) :
    unsigned? (w ++ '.' :: s) =
      if w.isEmpty && (s.takeWhile Char.isDigit).isEmpty then none
      else some (⟨digitsValue (w ++ s.takeWhile Char.isDigit), -(s.takeWhile Char.isDigit).length⟩,
        s.dropWhile Char.isDigit) := by
  rw [unsigned?, (takeWhile_point hw s).1, (takeWhile_point hw s).2]
  rfl

/-- A numeral is taken to its end, if what comes after does not go on with it. -/
theorem unsigned?_append (h : IsNumeral s d) (hdigits : StopsDigits r)
    (hpoint : StartsWithout ['.'] r) : unsigned? (s ++ r) = some (d, r) := by
  obtain ⟨htake, hdrop⟩ := takeWhile_of_stopsDigits hdigits
  cases h with
  | whole hne hw =>
    rw [unsigned?, List.takeWhile_append_of_pos hw, List.dropWhile_append_of_pos hw, htake, hdrop,
      List.append_nil]
    dsimp only
    split
    · exact absurd (by decide) (hpoint '.' rfl)
    · rw [if_neg (by simpa using hne)]
  | @point w f hw hf hne =>
    rw [List.append_assoc, List.cons_append, unsigned?_point hw,
      List.takeWhile_append_of_pos hf, List.dropWhile_append_of_pos hf, htake, hdrop,
      List.append_nil, if_neg (by simpa using hne)]

/-- A numeral is taken, and perhaps more. -/
theorem exists_unsigned?_append (h : IsNumeral s d) (r : List Char) :
    ∃ d' rest, unsigned? (s ++ r) = some (d', rest) ∧ rest.length ≤ r.length := by
  have hdrop : ∀ r : List Char, (r.dropWhile Char.isDigit).length ≤ r.length :=
    fun r => (List.dropWhile_suffix _).length_le
  cases h with
  | whole hne hw =>
    rw [unsigned?, List.takeWhile_append_of_pos hw, List.dropWhile_append_of_pos hw]
    dsimp only
    split
    · next tail heq =>
      have htail : tail.length < r.length := by
        have hlength := hdrop r
        rw [heq] at hlength
        exact hlength
      rw [if_neg (by simp [hne])]
      exact ⟨_, _, rfl, Nat.le_trans (hdrop tail) (Nat.le_of_lt htail)⟩
    · rw [if_neg (by simp [hne])]
      exact ⟨_, _, rfl, hdrop r⟩
  | @point w f hw hf hne =>
    have hdigits : ¬ (w.isEmpty && (f ++ r.takeWhile Char.isDigit).isEmpty) = true := by
      simp only [Bool.and_eq_true, List.isEmpty_iff, List.append_eq_nil_iff]
      rintro ⟨rfl, rfl, -⟩
      exact hne rfl
    rw [List.append_assoc, List.cons_append, unsigned?_point hw,
      List.takeWhile_append_of_pos hf, List.dropWhile_append_of_pos hf, if_neg hdigits]
    exact ⟨_, _, rfl, hdrop r⟩

/-- A power of ten is taken with all the digits that follow. -/
theorem power_append {c : Char} {sg ds : List Char} (hc : c = 'e' ∨ c = 'E')
    (hsg : IsSign sg negative) (hne : ds ≠ []) (hds : AllDigits ds) (r : List Char) :
    power (c :: (sg ++ (ds ++ r))) =
      (if negative then -(digitsValue (ds ++ r.takeWhile Char.isDigit) : Int)
        else digitsValue (ds ++ r.takeWhile Char.isDigit), r.dropWhile Char.isDigit) := by
  have hten : (decide (c = 'e') || decide (c = 'E')) = true := by simpa using hc
  have hdigits : (ds ++ r.takeWhile Char.isDigit).isEmpty = false := by simp [hne]
  rw [power, sign_append hsg (startsWithout_append_of_digits hne hds)]
  dsimp only
  rw [List.takeWhile_append_of_pos hds, List.dropWhile_append_of_pos hds, hten, hdigits]
  exact if_pos rfl

/-- A number with a power of ten is taken with all the digits that follow. -/
theorem leading?_append_ten {m sg ds : List Char} {c : Char} {minus : Bool}
    (hs : IsSign s negative) (hm : IsNumeral m d) (hc : c = 'e' ∨ c = 'E') (hsg : IsSign sg minus)
    (hne : ds ≠ []) (hds : AllDigits ds) (r : List Char) :
    leading? (s ++ (m ++ c :: (sg ++ (ds ++ r)))) =
      some (⟨negative, ⟨d.coefficient, d.exponent +
        if minus then -(digitsValue (ds ++ r.takeWhile Char.isDigit) : Int)
        else digitsValue (ds ++ r.takeWhile Char.isDigit)⟩⟩, r.dropWhile Char.isDigit) := by
  have hten : c.isDigit = false ∧ c ∉ ['.'] := by
    obtain rfl | rfl := hc <;> decide
  have hdigits : StopsDigits (c :: (sg ++ (ds ++ r))) := by
    rintro _ ⟨⟩
    exact hten.1
  have hpoint : StartsWithout ['.'] (c :: (sg ++ (ds ++ r))) := by
    rintro _ ⟨⟩
    exact hten.2
  rw [leading?, sign_append hs (startsWithout_append hm)]
  dsimp only
  rw [unsigned?_append hm hdigits hpoint, Option.map_some, power_append hc hsg hne hds]

end LeadingLemmas

open LeadingLemmas

/-- A number is read to its end. -/
theorem leading?_of_isNumber (h : IsNumber s x) : leading? s = some (x, []) := by
  obtain ⟨hs, hm, hp⟩ := h
  cases hp with
  | none =>
    rw [leading?, sign_append hs (startsWithout_append hm)]
    dsimp only
    rw [unsigned?_append hm stopsDigits_nil (startsWithout_nil _), Option.map_some]
    rfl
  | ten hc hsg hne hds =>
    have hread := leading?_append_ten hs hm hc hsg hne hds []
    rwa [List.takeWhile_nil, List.dropWhile_nil, List.append_nil] at hread

/-- The value of a number is unique. -/
theorem IsNumber.unique {x' : Signed} (h : IsNumber s x) (h' : IsNumber s x') : x = x' := by
  have hread := (leading?_of_isNumber h).symm.trans (leading?_of_isNumber h')
  cases hread
  rfl

/-- A text that starts with a number is read at least to the end of it. -/
theorem exists_leading?_append (h : IsNumber s x) (r : List Char) :
    ∃ y rest, leading? (s ++ r) = some (y, rest) ∧ rest.length ≤ r.length := by
  obtain ⟨hs, hm, hp⟩ := h
  rw [List.append_assoc, List.append_assoc]
  cases hp with
  | none =>
    obtain ⟨d, rest, hun, hlength⟩ := exists_unsigned?_append hm r
    rw [leading?, sign_append hs (startsWithout_append hm)]
    dsimp only
    rw [List.nil_append, hun]
    exact ⟨_, _, rfl, Nat.le_trans (length_power_le rest) hlength⟩
  | ten hc hsg hne hds =>
    rw [List.cons_append, List.append_assoc, leading?_append_ten hs hm hc hsg hne hds]
    exact ⟨_, _, rfl, (List.dropWhile_suffix _).length_le⟩

/-! ## 4. The longest number -/

/-- What is read is the longest number with which the text starts. -/
theorem longestNumber_of_leading? (h : leading? t = some (x, rest)) :
    ∃ s, t = s ++ rest ∧ LongestNumber t s x := by
  obtain ⟨s, hs, rfl⟩ := exists_isNumber h
  refine ⟨s, rfl, List.prefix_append s rest, hs, ?_⟩
  rintro s' x' ⟨r, heq⟩ hs'
  obtain ⟨y, rest', hread, hlength⟩ := exists_leading?_append hs' r
  rw [heq, h] at hread
  cases hread
  have hlengths := congrArg List.length heq
  rw [List.length_append, List.length_append] at hlengths
  omega

/-- Nothing is read exactly if the text starts with no number. -/
theorem leading?_eq_none_iff : leading? t = none ↔ ¬ ∃ s x, s <+: t ∧ IsNumber s x := by
  constructor
  · rintro h ⟨s, x, ⟨r, rfl⟩, hs⟩
    obtain ⟨y, rest, hread, -⟩ := exists_leading?_append hs r
    rw [h] at hread
    cases hread
  · intro h
    cases hread : leading? t with
    | none => rfl
    | some read =>
      obtain ⟨s, -, hs⟩ := longestNumber_of_leading? hread
      exact absurd ⟨s, _, hs.start, hs.number⟩ h

/-- There is one longest number, with one value. -/
theorem LongestNumber.unique {s' : List Char} {x' : Signed} (h : LongestNumber t s x)
    (h' : LongestNumber t s' x') : s = s' ∧ x = x' := by
  have hlength : s.length = s'.length :=
    Nat.le_antisymm (h'.longest s x h.start h.number) (h.longest s' x' h'.start h'.number)
  obtain rfl : s = s' :=
    (List.prefix_of_prefix_length_le h.start h'.start (Nat.le_of_eq hlength)).eq_of_length hlength
  exact ⟨rfl, h.number.unique h'.number⟩

/-- The double nearest to the number if that is finite, and 0 otherwise. -/
theorem getD_finite? (x : Signed) :
    x.finite?.getD 0 = if x.toFloat.isFinite then x.toFloat else 0 := by
  have hfinite := isFinite_toFloat_iff x.magnitude x.negative
  rw [Signed.finite?, Signed.toFloat, Decimal.finite?]
  by_cases hindex : x.magnitude.index < infiniteIndex
  · rw [if_pos hindex, if_pos (hfinite.2 hindex), Option.getD_some]
  · rw [if_neg hindex, if_neg (hindex ∘ hfinite.1), Option.getD_none]

end Number

open Number (IsNumber LongestNumber leading? plainText)

/-! ## 5. Typed values -/

/-- The number that a literal of a formula is has the same value when it is typed, unless it is too
large. -/
theorem enteredValue_of_isNumeral {text : String} {d : Number.Decimal}
    (h : Number.IsNumeral text.toList d) : enteredValue text = (d.finite? false).getD 0 := by
  have hblank : ∀ c ∈ text.toList, Text.isBlank c = false := fun c hc =>
    (WritingLemmas.plain_of_numeral h c hc).1
  have hread : leading? text.toList = some (⟨false, d⟩, []) := leading?_minus_append h false
  rw [enteredValue, Text.trim_eq_self hblank, hread]
  rfl

/-- What a literal of a formula is, typed. -/
theorem enteredValue_of_literalValue (text : String) :
    (∀ v, literalValue text = .ok v → enteredValue text = v) ∧
    ∀ literal, literalValue text = .error (.numberTooLarge literal) → enteredValue text = 0 := by
  rw [literalValue]
  cases hnumeral : Number.numeral? text.toList with
  | none =>
    constructor
    · intro v h
      cases h
    · intro literal h
      cases h
  | some d =>
    rw [enteredValue_of_isNumeral (Number.numeral?_eq_some_iff.1 hnumeral)]
    dsimp only
    cases d.finite? false with
    | none => exact ⟨fun v h => (by cases h), fun _ _ => rfl⟩
    | some v => exact ⟨fun w h => Except.ok.inj h, fun literal h => (by cases h)⟩

/-- A typed text counts by the longest number with which it starts, blanks at its ends aside. The
value is the double nearest to this number, if that is finite. It is 0 if that is infinite, and if
the text starts with no number. So the value is always finite. A literal of a formula has the same
value when it is typed, or 0 if it is too large, and the plain digits of a finite double have that
double for value. -/
theorem enteredValue_correct :
    (∀ text : String,
      (∀ s x, LongestNumber (Text.trim text.toList) s x →
        enteredValue text = if x.toFloat.isFinite then x.toFloat else 0) ∧
      ((∃ s x, s <+: Text.trim text.toList ∧ IsNumber s x) →
        ∃ s x, LongestNumber (Text.trim text.toList) s x) ∧
      ((¬ ∃ s x, s <+: Text.trim text.toList ∧ IsNumber s x) → enteredValue text = 0) ∧
      (enteredValue text).isFinite = true ∧
      (∀ v, literalValue text = .ok v → enteredValue text = v) ∧
      ∀ literal, literalValue text = .error (.numberTooLarge literal) → enteredValue text = 0) ∧
    ∀ x : Float, x.isFinite = true → enteredValue (plainText x) = x := by
  refine ⟨fun text => ⟨fun s x h => ?_, fun h => ?_, fun h => ?_,
    Environment.isFinite_enteredValue text, enteredValue_of_literalValue text⟩,
    fun x h => enteredValue_plainText h⟩
  · cases hread : leading? (Text.trim text.toList) with
    | none => exact absurd ⟨s, x, h.start, h.number⟩ (Number.leading?_eq_none_iff.1 hread)
    | some read =>
      obtain ⟨s', -, h'⟩ := Number.longestNumber_of_leading? hread
      obtain ⟨-, hx⟩ := h.unique h'
      rw [enteredValue, hread, hx]
      exact Number.getD_finite? _
  · cases hread : leading? (Text.trim text.toList) with
    | none => exact absurd h (Number.leading?_eq_none_iff.1 hread)
    | some read =>
      obtain ⟨s, -, hs⟩ := Number.longestNumber_of_leading? hread
      exact ⟨s, _, hs⟩
  · rw [enteredValue, Number.leading?_eq_none_iff.2 h]

namespace EnteredValueLemmas

theorem longestNumber_weight :
    LongestNumber (Text.trim " -2.5e+kg ".toList) "-2.5".toList ⟨true, ⟨25, -1⟩⟩ := by
  have hread : leading? (Text.trim " -2.5e+kg ".toList) =
      some (⟨true, ⟨25, -1⟩⟩, "e+kg".toList) := by
    decide
  obtain ⟨s, heq, hs⟩ := Number.longestNumber_of_leading? hread
  have hcancel : "-2.5".toList ++ "e+kg".toList = s ++ "e+kg".toList := heq
  obtain rfl : "-2.5".toList = s := List.append_cancel_right hcancel
  exact hs

/-- The digits of `10 ^ 309`, which is beyond the largest double. -/
def longLiteral : String :=
  String.ofList ('1' :: List.replicate 309 '0')

theorem literalValue_longLiteral :
    literalValue longLiteral = .error (.numberTooLarge longLiteral) := by
  have hnumeral : Number.numeral? ('1' :: List.replicate 309 '0') = some ⟨10 ^ 309, 0⟩ := by
    decide +kernel
  have hread : Number.numeral? longLiteral.toList = some ⟨10 ^ 309, 0⟩ :=
    (congrArg Number.numeral? String.toList_ofList).trans hnumeral
  have hinfinite : (⟨10 ^ 309, 0⟩ : Number.Decimal).finite? false = none := by
    decide +kernel
  generalize longLiteral = text at hread
  rw [literalValue, hread]
  dsimp only
  rw [hinfinite]

end EnteredValueLemmas

open EnteredValueLemmas

/-- In ` -2.5e+kg ` the `e` and the `+` belong to no number. The literal `.5` has its value, that of
`10 ^ 309` has none, and zero keeps its minus sign. -/
theorem enteredValue_correct_weight :
    LongestNumber (Text.trim " -2.5e+kg ".toList) "-2.5".toList ⟨true, ⟨25, -1⟩⟩ ∧
      enteredValue " -2.5e+kg " = -2.5 ∧
      literalValue ".5" = .ok 0.5 ∧ enteredValue ".5" = 0.5 ∧
      literalValue longLiteral = .error (.numberTooLarge longLiteral) ∧
      enteredValue longLiteral = 0 ∧
      (-0.0 : Float).isFinite = true ∧ enteredValue (plainText (-0.0)) = -0.0 := by
  have hliteral : literalValue ".5" = .ok 0.5 := by decide +kernel
  have hzero : (-0.0 : Float).isFinite = true := by decide +kernel
  have hweight := (enteredValue_correct.1 _).1 _ _ longestNumber_weight
  refine ⟨longestNumber_weight, hweight.trans ?_, hliteral,
    (enteredValue_correct.1 _).2.2.2.2.1 _ hliteral, literalValue_longLiteral,
    (enteredValue_correct.1 _).2.2.2.2.2 _ literalValue_longLiteral, hzero,
    enteredValue_correct.2 _ hzero⟩
  decide +kernel

end Formulary

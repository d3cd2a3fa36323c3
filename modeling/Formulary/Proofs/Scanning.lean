import Formulary.Token.Scan

/-!
# Texts and their tokens

A text of a formula is the texts of its tokens with blank characters between them. Between two runs
blank characters are needed, elsewhere they are free.

* `IsRun run`: the characters can be one run of a text.
* `t.WellFormed`: the token can come from a text.
* `Layout`: tokens and the characters between them; `l.chars` is its text, `l.tokens` its tokens.
* `l.Proper`: the tokens are well-formed, and nothing but the blank characters needed or allowed
  stands between them.

Results.
* A text has one proper layout, and its tokens are those of `tokenize` (`tokenize_correct`).
-/

namespace Formulary

/-! ## 1. Well-formed tokens -/

/-- The characters that are operators or parentheses. -/
def symbols : List Char := ['+', '-', '*', '/', '^', '(', ')']

/-- The characters can be one run: they are neither blank nor symbols, and no name of a logarithm
stands in them. -/
structure IsRun (run : List Char) : Prop where
  ne_nil : run ≠ []
  plain : ∀ c ∈ run, Text.isBlank c = false ∧ c ∉ symbols
  unnamed : ∀ f : Logarithm, ¬ f.text.toList <:+: run

/-- The token is a literal or a letter. -/
def Token.isRun : Token → Bool
  | literal _ | letter _ => true
  | _ => false

/-- The token can come from a text. -/
def Token.WellFormed : Token → Prop
  | literal text => IsRun text.toList ∧ ∀ c, text.toList = [c] → c.isAlpha = false
  | letter name => name.isAlpha = true
  | _ => True

namespace ScanningLemmas

theorem forall_symbols {p : Char → Prop}
    (h : p '+' ∧ p '-' ∧ p '*' ∧ p '/' ∧ p '^' ∧ p '(' ∧ p ')') : ∀ c ∈ symbols, p c := by
  obtain ⟨h1, h2, h3, h4, h5, h6, h7⟩ := h
  intro c hc
  simp only [symbols, List.mem_cons, List.not_mem_nil, or_false] at hc
  rcases hc with rfl | rfl | rfl | rfl | rfl | rfl | rfl <;> assumption

theorem ofSymbol?_eq_none_iff (c : Char) : Token.ofSymbol? c = none ↔ c ∉ symbols := by
  constructor
  · intro h hc
    have hsome : ∀ x ∈ symbols, Token.ofSymbol? x ≠ none := forall_symbols (by decide)
    exact hsome c hc h
  · intro h
    simp only [symbols, List.mem_cons, List.not_mem_nil, or_false, not_or] at h
    obtain ⟨h1, h2, h3, h4, h5, h6, h7⟩ := h
    unfold Token.ofSymbol?
    split
    · exact absurd rfl h6
    · exact absurd rfl h7
    · unfold Operator.ofChar?
      split <;> first | rfl | contradiction

theorem mem_symbols {c : Char} {t : Token} (h : Token.ofSymbol? c = some t) : c ∈ symbols := by
  refine Classical.not_not.1 fun hc => ?_
  rw [(ofSymbol?_eq_none_iff c).2 hc] at h
  cases h

theorem bounds_of_alpha {c : Char} (h : c.isAlpha = true) :
    65 ≤ c.toNat ∧ c.toNat ≤ 90 ∨ 97 ≤ c.toNat ∧ c.toNat ≤ 122 := by
  unfold Char.isAlpha Char.isUpper Char.isLower at h
  simpa [UInt32.le_iff_toNat_le] using h

theorem isBlank_of_graphic {c : Char} (h : 33 ≤ c.toNat) (h' : c.toNat ≤ 126) :
    Text.isBlank c = false := by
  simp only [Text.isBlank, Text.blankRanges, List.any_cons, List.any_nil, Bool.or_false,
    Bool.or_eq_false_iff, Bool.and_eq_false_iff, decide_eq_false_iff_not]
  omega

theorem isRun_alpha {c : Char} (h : c.isAlpha = true) : IsRun [c] := by
  refine ⟨List.cons_ne_nil _ _, ?_, ?_⟩
  · intro x hx
    rw [List.mem_singleton.1 hx]
    constructor
    · have hbounds := bounds_of_alpha h
      exact isBlank_of_graphic (by omega) (by omega)
    · intro hc
      have hnone : ∀ x ∈ symbols, x.isAlpha = false := forall_symbols (by decide)
      rw [hnone c hc] at h
      cases h
  · intro f hf
    have hlen : f.text.toList.length ≤ 1 := hf.length_le
    cases f <;> exact absurd hlen (by decide)

theorem ofRun_eq_literal {run : List Char} (h : ∀ c, run = [c] → c.isAlpha = false) :
    Token.ofRun run = .literal (String.ofList run) := by
  unfold Token.ofRun
  split
  · next c =>
    rw [h c rfl, ← String.singleton_eq_ofList]
    rfl
  · rfl

theorem ofRun_letter {c : Char} (h : c.isAlpha = true) : Token.ofRun [c] = .letter c :=
  if_pos h

/-- The token of a run is well-formed. -/
theorem wellFormed_ofRun {run : List Char} (h : IsRun run) :
    (Token.ofRun run).WellFormed ∧ (Token.ofRun run).isRun = true := by
  by_cases hletter : ∃ c, run = [c] ∧ c.isAlpha = true
  · obtain ⟨c, rfl, hc⟩ := hletter
    rw [ofRun_letter hc]
    exact ⟨hc, rfl⟩
  · have hone : ∀ c, run = [c] → c.isAlpha = false :=
      fun c hc => Bool.eq_false_iff.2 fun halpha => hletter ⟨c, hc, halpha⟩
    rw [ofRun_eq_literal hone]
    refine ⟨⟨?_, ?_⟩, rfl⟩
    · rwa [String.toList_ofList]
    · rwa [String.toList_ofList]

/-- A well-formed literal or letter is the token of its text, which is a run. -/
theorem ofRun_text {t : Token} (h : t.WellFormed) (hrun : t.isRun = true) :
    IsRun t.text.toList ∧ Token.ofRun t.text.toList = t := by
  cases t with
  | literal text =>
    obtain ⟨hr, hone⟩ := h
    refine ⟨hr, ?_⟩
    show Token.ofRun text.toList = _
    rw [ofRun_eq_literal hone, String.ofList_toList]
  | letter name =>
    have htext : (Token.letter name).text.toList = [name] := String.toList_singleton name
    rw [htext]
    exact ⟨isRun_alpha h, ofRun_letter h⟩
  | _ => cases hrun

/-! ## 2. Steps of the scanner -/

theorem leading?_cons_of_ne {c : Char} (h : c ≠ 'l') (rest : List Char) :
    Logarithm.leading? (c :: rest) = none := by
  unfold Logarithm.leading?
  split
  · next heq => exact absurd (List.cons.inj heq).1 h
  · next heq => exact absurd (List.cons.inj heq).1 h
  · rfl

theorem scan_logarithm (pending rest : List Char) (f : Logarithm) :
    Token.scan pending (f.text.toList ++ rest) =
      Token.ofPending pending.reverse ++ .logarithm f :: Token.scan [] rest := by
  cases f with
  | natural => exact Token.scan.eq_3 pending rest
  | common => exact Token.scan.eq_2 pending rest

theorem scan_cons {c : Char} {rest : List Char} (pending : List Char)
    (h : Logarithm.leading? (c :: rest) = none) :
    Token.scan pending (c :: rest) =
      if Text.isBlank c then Token.ofPending pending.reverse ++ Token.scan [] rest
      else match Token.ofSymbol? c with
        | some t => Token.ofPending pending.reverse ++ t :: Token.scan [] rest
        | none => Token.scan (c :: pending) rest := by
  rw [Token.scan.eq_def]
  split
  · next heq => cases heq
  · next heq =>
    cases heq
    cases h
  · next heq =>
    cases heq
    cases h
  · next heq =>
    cases heq
    rfl

theorem scan_blank {c : Char} (h : Text.isBlank c = true) (pending rest : List Char) :
    Token.scan pending (c :: rest) = Token.ofPending pending.reverse ++ Token.scan [] rest := by
  have hne : c ≠ 'l' := by
    rintro rfl
    exact absurd h (by decide)
  rw [scan_cons pending (leading?_cons_of_ne hne rest), if_pos h]

theorem scan_symbol {c : Char} {t : Token} (h : Token.ofSymbol? c = some t)
    (pending rest : List Char) :
    Token.scan pending (c :: rest) =
      Token.ofPending pending.reverse ++ t :: Token.scan [] rest := by
  have hplain : ∀ x ∈ symbols, x ≠ 'l' ∧ Text.isBlank x = false := forall_symbols (by decide)
  obtain ⟨hne, hblank⟩ := hplain c (mem_symbols h)
  rw [scan_cons pending (leading?_cons_of_ne hne rest), hblank, h]
  rfl

theorem scan_plain {c : Char} {rest : List Char} (hblank : Text.isBlank c = false)
    (hsymbol : c ∉ symbols) (h : Logarithm.leading? (c :: rest) = none) (pending : List Char) :
    Token.scan pending (c :: rest) = Token.scan (c :: pending) rest := by
  rw [scan_cons pending h, hblank, (ofSymbol?_eq_none_iff c).2 hsymbol]
  rfl

/-- A token that is no run ends the run before it. -/
theorem scan_token {t : Token} (h : t.isRun = false) (pending rest : List Char) :
    Token.scan pending (t.text.toList ++ rest) =
      Token.ofPending pending.reverse ++ t :: Token.scan [] rest := by
  cases t with
  | literal _ => cases h
  | letter _ => cases h
  | logarithm f => exact scan_logarithm pending rest f
  | operator op =>
    have htext : (Token.operator op).text.toList = [op.char] := String.toList_singleton op.char
    rw [htext]
    exact scan_symbol (by cases op <;> rfl) pending rest
  | openParen => exact scan_symbol rfl pending rest
  | closeParen => exact scan_symbol rfl pending rest

/-! ## 3. Where a run ends -/

/-- A run before the text ends there. -/
inductive Breaks : List Char → Prop
  | nil : Breaks []
  | blank {c : Char} {rest : List Char} : Text.isBlank c = true → Breaks (c :: rest)
  | token {t : Token} {rest : List Char} : t.isRun = false → Breaks (t.text.toList ++ rest)

/-- No name of a logarithm begins in the run. -/
def Unnamed (run rest : List Char) : Prop :=
  ∀ s, s ≠ [] → s <:+ run → Logarithm.leading? (s ++ rest) = none

theorem scan_breaks {rest : List Char} (h : Breaks rest) (pending : List Char) :
    Token.scan pending rest = Token.ofPending pending.reverse ++ Token.scan [] rest := by
  cases h with
  | nil => exact (List.append_nil _).symm
  | blank hc =>
    rw [scan_blank hc, scan_blank hc]
    rfl
  | token ht =>
    rw [scan_token ht, scan_token ht]
    rfl

theorem head_of_breaks {c : Char} {rest : List Char} (h : Breaks rest)
    (hc : rest.head? = some c) : Text.isBlank c = true ∨ c ∈ symbols ∨ c = 'l' := by
  cases h with
  | nil => cases hc
  | blank hb =>
    cases hc
    exact .inl hb
  | @token t rest ht =>
    refine .inr ?_
    cases t with
    | literal _ => cases ht
    | letter _ => cases ht
    | logarithm f => cases f <;> exact .inr (Option.some.inj hc).symm
    | operator op =>
      rw [show (Token.operator op).text.toList = [op.char] from String.toList_singleton _] at hc
      cases hc
      exact .inl (by cases op <;> decide)
    | openParen =>
      cases hc
      exact .inl (by decide)
    | closeParen =>
      cases hc
      exact .inl (by decide)

/-- The name of a logarithm does not go on where a run ends. -/
theorem not_mem_tail_of_breaks {c : Char} {rest : List Char} (h : Breaks (c :: rest))
    (f : Logarithm) : c ∉ f.text.toList.tail := by
  have hplain : ∀ x ∈ f.text.toList.tail, Text.isBlank x = false ∧ x ∉ symbols ∧ x ≠ 'l' := by
    cases f with
    | natural => exact List.forall_mem_singleton.2 (by decide)
    | common => exact List.forall_mem_cons.2 ⟨by decide, List.forall_mem_singleton.2 (by decide)⟩
  intro hc
  obtain ⟨hblank, hsymbol, hne⟩ := hplain c hc
  obtain hb | hs | hl := head_of_breaks h rfl
  · rw [hblank] at hb
    cases hb
  · exact hsymbol hs
  · exact hne hl

theorem exists_of_leading? {s : List Char} {f : Logarithm} (h : Logarithm.leading? s = some f) :
    ∃ rest, s = f.text.toList ++ rest := by
  unfold Logarithm.leading? at h
  split at h
  · cases h
    exact ⟨_, rfl⟩
  · cases h
    exact ⟨_, rfl⟩
  · cases h

/-- No name of a logarithm stands across the end of a run. -/
theorem unnamed_of_isRun {run rest : List Char} (h : IsRun run) (hbreaks : Breaks rest) :
    Unnamed run rest := by
  intro s hne hs
  cases hlead : Logarithm.leading? (s ++ rest) with
  | none => rfl
  | some f =>
    have within (hf : f.text.toList <+: s) : False :=
      h.unnamed f (hf.isInfix.trans hs.isInfix)
    obtain ⟨more, hmore⟩ := exists_of_leading? hlead
    obtain ⟨a, hf, hrest⟩ | ⟨b, hs', -⟩ := List.append_eq_append_iff.1 hmore
    · cases a with
      | nil => exact (within ⟨[], by rw [hf, List.append_nil, List.append_nil]⟩).elim
      | cons c a =>
        -- the name would go on after the run with its second or third letter
        obtain ⟨x, s, rfl⟩ := List.exists_cons_of_ne_nil hne
        have htail : c ∈ f.text.toList.tail := by
          rw [hf]
          exact List.mem_append_right s List.mem_cons_self
        rw [hrest] at hbreaks
        exact absurd htail (not_mem_tail_of_breaks hbreaks f)
    · exact (within ⟨b, hs'.symm⟩).elim

/-- What has been read with no name in it is a run. -/
theorem isRun_of_unnamed {run rest : List Char} (hne : run ≠ [])
    (hplain : ∀ c ∈ run, Text.isBlank c = false ∧ c ∉ symbols) (h : Unnamed run rest) :
    IsRun run := by
  refine ⟨hne, hplain, ?_⟩
  rintro f ⟨a, b, rfl⟩
  have hlead := h (f.text.toList ++ b) ?_ ⟨a, (List.append_assoc _ _ _).symm⟩
  · rw [List.append_assoc, Logarithm.leading?_text] at hlead
    cases hlead
  · intro hnil
    have htext := (List.append_eq_nil_iff.1 hnil).1
    cases f <;> cases htext

theorem unnamed_concat {run rest : List Char} {c : Char} (h : Unnamed run (c :: rest))
    (hlead : Logarithm.leading? (c :: rest) = none) : Unnamed (run ++ [c]) rest := by
  intro s hne hs
  obtain hnil | ⟨t, rfl, ht⟩ := List.suffix_concat_iff.1 hs
  · exact absurd hnil hne
  · rw [List.append_assoc]
    by_cases htnil : t = []
    · rw [htnil]
      exact hlead
    · exact h t htnil ht

theorem scan_plain_run {s rest : List Char}
    (hplain : ∀ c ∈ s, Text.isBlank c = false ∧ c ∉ symbols) (h : Unnamed s rest)
    (pending : List Char) :
    Token.scan pending (s ++ rest) = Token.scan (s.reverse ++ pending) rest := by
  induction s generalizing pending with
  | nil => rfl
  | cons c s ih =>
    obtain ⟨hblank, hsymbol⟩ := hplain c List.mem_cons_self
    have hlead := h (c :: s) (List.cons_ne_nil _ _) List.suffix_rfl
    rw [List.cons_append] at hlead ⊢
    rw [scan_plain hblank hsymbol hlead, ih (fun x hx => hplain x (List.mem_cons_of_mem c hx)) ?_,
      List.reverse_cons, List.append_assoc]
    · rfl
    · intro t hne ht
      exact h t hne (ht.trans (List.suffix_cons c s))

/-- A run becomes its token. -/
theorem scan_run {run rest : List Char} (h : IsRun run) (hbreaks : Breaks rest) :
    Token.scan [] (run ++ rest) = Token.ofRun run :: Token.scan [] rest := by
  rw [scan_plain_run h.plain (unnamed_of_isRun h hbreaks), scan_breaks hbreaks, List.append_nil,
    List.reverse_reverse, Token.ofPending, if_neg]
  · rfl
  · rw [List.isEmpty_iff]
    exact h.ne_nil

end ScanningLemmas

open ScanningLemmas

/-! ## 4. Layouts -/

/-- Tokens with the characters before each of them and after the last. -/
inductive Layout
  | finish (blanks : List Char)
  | token (blanks : List Char) (t : Token) (rest : Layout)

namespace Layout

/-- The text of the layout. -/
def chars : Layout → List Char
  | finish blanks => blanks
  | token blanks t rest => blanks ++ (t.text.toList ++ rest.chars)

/-- The tokens of the layout. -/
def tokens : Layout → List Token
  | finish _ => []
  | token _ t rest => t :: rest.tokens

/-- The layout does not begin with a run. -/
def Parted : Layout → Prop
  | finish _ => True
  | token blanks t _ => t.isRun = true → blanks ≠ []

/-- Only blank characters stand between tokens that are well-formed, and some stand between any two
runs. -/
def Proper : Layout → Prop
  | finish blanks => ∀ c ∈ blanks, Text.isBlank c = true
  | token blanks t rest =>
    (∀ c ∈ blanks, Text.isBlank c = true) ∧ t.WellFormed ∧ (t.isRun = true → rest.Parted) ∧
      rest.Proper

end Layout

namespace ScanningLemmas

/-- A proper layout that does not begin with a run ends a run. -/
theorem breaks_of_parted {l : Layout} (h : l.Proper) (hparted : l.Parted) : Breaks l.chars := by
  cases l with
  | finish blanks =>
    cases blanks with
    | nil => exact .nil
    | cons c blanks => exact .blank (h c List.mem_cons_self)
  | token blanks t rest =>
    cases blanks with
    | nil =>
      refine .token ?_
      cases hrun : t.isRun with
      | false => rfl
      | true => exact absurd rfl (hparted hrun)
    | cons c blanks => exact .blank (h.1 c List.mem_cons_self)

theorem scan_blanks {blanks : List Char} (h : ∀ c ∈ blanks, Text.isBlank c = true)
    (rest : List Char) : Token.scan [] (blanks ++ rest) = Token.scan [] rest := by
  induction blanks with
  | nil => rfl
  | cons c blanks ih =>
    rw [List.cons_append, scan_blank (h c List.mem_cons_self),
      ih fun x hx => h x (List.mem_cons_of_mem c hx)]
    rfl

/-- The tokens of a proper layout are those of its text. -/
theorem scan_layout {l : Layout} (h : l.Proper) : Token.scan [] l.chars = l.tokens := by
  induction l with
  | finish blanks =>
    have hscan := scan_blanks h []
    rwa [List.append_nil] at hscan
  | token blanks t rest ih =>
    obtain ⟨hblanks, hwell, hparted, hrest⟩ := h
    rw [Layout.chars, scan_blanks hblanks]
    cases hrun : t.isRun with
    | true =>
      obtain ⟨hr, ht⟩ := ofRun_text hwell hrun
      rw [scan_run hr (breaks_of_parted hrest (hparted hrun)), ht, ih hrest]
      rfl
    | false =>
      rw [scan_token hrun, ih hrest]
      rfl

/-! ## 5. Every text has a layout -/

/-- A run in front of a layout that does not begin with one. -/
theorem exists_layout_run {run : List Char} {l : Layout} (hrun : run ≠ [] → IsRun run)
    (hl : l.Proper) (hparted : l.Parted) :
    ∃ l' : Layout, l'.Proper ∧ l'.chars = run ++ l.chars ∧
      l'.tokens = Token.ofPending run ++ l.tokens := by
  by_cases hne : run = []
  · rw [hne]
    exact ⟨l, hl, rfl, rfl⟩
  · obtain ⟨hwell, hisRun⟩ := wellFormed_ofRun (hrun hne)
    refine ⟨.token [] (Token.ofRun run) l, ⟨?_, hwell, fun _ => hparted, hl⟩, ?_, ?_⟩
    · intro c hc
      cases hc
    · rw [Layout.chars, Token.toList_text_ofRun]
      rfl
    · rw [Token.ofPending, if_neg (by rwa [List.isEmpty_iff])]
      rfl

/-- A blank character in front of a layout. -/
theorem exists_layout_blank {c : Char} {l : Layout} (hc : Text.isBlank c = true) (hl : l.Proper) :
    ∃ l' : Layout, l'.Proper ∧ l'.Parted ∧ l'.chars = c :: l.chars ∧ l'.tokens = l.tokens := by
  cases l with
  | finish blanks =>
    exact ⟨.finish (c :: blanks), List.forall_mem_cons.2 ⟨hc, hl⟩, trivial, rfl, rfl⟩
  | token blanks t rest =>
    obtain ⟨hblanks, hrest⟩ := hl
    exact ⟨.token (c :: blanks) t rest, ⟨List.forall_mem_cons.2 ⟨hc, hblanks⟩, hrest⟩,
      fun _ => List.cons_ne_nil _ _, rfl, rfl⟩

/-- A token that is no run in front of a layout. -/
theorem proper_token {t : Token} {l : Layout} (ht : t.isRun = false) (hl : l.Proper) :
    (Layout.token [] t l).Proper ∧ (Layout.token [] t l).Parted := by
  have hnot : t.isRun ≠ true := Bool.eq_false_iff.1 ht
  refine ⟨⟨?_, ?_, fun hrun => absurd hrun hnot, hl⟩, fun hrun => absurd hrun hnot⟩
  · intro c hc
    cases hc
  · cases t <;> trivial

theorem exists_layout_token {run rest : List Char} {t : Token} {ts : List Token}
    (hrun : run ≠ [] → IsRun run) (ht : t.isRun = false)
    (h : ∃ l : Layout, l.Proper ∧ l.chars = rest ∧ l.tokens = ts) :
    ∃ l : Layout, l.Proper ∧ l.chars = run ++ (t.text.toList ++ rest) ∧
      l.tokens = Token.ofPending run ++ t :: ts := by
  obtain ⟨l, hl, rfl, rfl⟩ := h
  obtain ⟨hl', hparted⟩ := proper_token ht hl
  exact exists_layout_run hrun hl' hparted

theorem of_ofSymbol? {c : Char} {t : Token} (h : Token.ofSymbol? c = some t) :
    t.isRun = false ∧ t.text.toList = [c] := by
  have hall : ∀ x ∈ symbols, ∀ t ∈ Token.ofSymbol? x, t.isRun = false ∧ t.text.toList = [x] :=
    forall_symbols (by decide)
  exact hall c (mem_symbols h) t h

/-- The characters of `run` are pending before `rest`: they can go on to be a run. -/
structure Pending (run rest : List Char) : Prop where
  plain : ∀ c ∈ run, Text.isBlank c = false ∧ c ∉ symbols
  unnamed : Unnamed run rest

theorem pending_nil (rest : List Char) : Pending [] rest := by
  refine ⟨fun c hc => ?_, fun s hne hs => ?_⟩
  · cases hc
  · exact absurd (List.suffix_nil.1 hs) hne

theorem Pending.isRun {run rest : List Char} (h : Pending run rest) (hne : run ≠ []) : IsRun run :=
  isRun_of_unnamed hne h.plain h.unnamed

/-- The layout of what is pending and the rest of the text. -/
theorem exists_layout {pending text : List Char} (h : Pending pending.reverse text) :
    ∃ l : Layout, l.Proper ∧ l.chars = pending.reverse ++ text ∧
      l.tokens = Token.scan pending text := by
  -- the cases are those of the scanner, and each begins by ending what is pending or adding to it
  fun_induction Token.scan pending text with
  | case1 pending =>
    have hfinish : (Layout.finish []).Proper := fun c hc => by cases hc
    obtain ⟨l, hl, hchars, htokens⟩ := exists_layout_run h.isRun hfinish trivial
    refine ⟨l, hl, hchars, ?_⟩
    rw [htokens]
    exact List.append_nil _
  | case2 pending rest ih =>
    exact exists_layout_token (t := .logarithm .common) h.isRun rfl (ih (pending_nil rest))
  | case3 pending rest ih =>
    exact exists_layout_token (t := .logarithm .natural) h.isRun rfl (ih (pending_nil rest))
  | case4 pending c rest _ _ hblank ih =>
    obtain ⟨l, hl, hchars, htokens⟩ := ih (pending_nil rest)
    obtain ⟨l', hl', hparted, hchars', htokens'⟩ := exists_layout_blank hblank hl
    rw [show l.chars = rest from hchars] at hchars'
    rw [← htokens, ← htokens', ← hchars']
    exact exists_layout_run h.isRun hl' hparted
  | case5 pending c rest _ _ _ t ht ih =>
    obtain ⟨hrun, htext⟩ := of_ofSymbol? ht
    have hl := exists_layout_token h.isRun hrun (ih (pending_nil rest))
    rw [htext] at hl
    exact hl
  | case6 pending c rest hlog hln hblank hsymbol ih =>
    have hlead : Logarithm.leading? (c :: rest) = none := by
      unfold Logarithm.leading?
      split
      · next heq =>
        cases heq
        exact (hlog _ rfl rfl).elim
      · next heq =>
        cases heq
        exact (hln _ rfl rfl).elim
      · rfl
    rw [List.reverse_cons, List.append_assoc] at ih
    refine ih ⟨?_, unnamed_concat h.unnamed hlead⟩
    intro x hx
    obtain hx | hx := List.mem_append.1 hx
    · exact h.plain x hx
    · rw [List.mem_singleton.1 hx]
      exact ⟨Bool.eq_false_iff.2 hblank, (ofSymbol?_eq_none_iff c).1 hsymbol⟩

/-! ## 6. Layouts are unique -/

theorem exists_nonblank {t : Token} (h : t.WellFormed) :
    ∃ c s, t.text.toList = c :: s ∧ Text.isBlank c = false := by
  cases hrun : t.isRun with
  | true =>
    obtain ⟨hr, -⟩ := ofRun_text h hrun
    obtain ⟨c, s, heq⟩ := List.exists_cons_of_ne_nil hr.ne_nil
    exact ⟨c, s, heq, (hr.plain c (by rw [heq]; exact List.mem_cons_self)).1⟩
  | false =>
    cases t with
    | literal _ => cases hrun
    | letter _ => cases hrun
    | logarithm f => cases f <;> exact ⟨_, _, rfl, by decide⟩
    | operator op => exact ⟨op.char, [], String.toList_singleton _, by cases op <;> decide⟩
    | openParen => exact ⟨_, _, rfl, by decide⟩
    | closeParen => exact ⟨_, _, rfl, by decide⟩

/-- The blank characters before a token are those that the text begins with. -/
theorem takeWhile_blanks {blanks : List Char} {t : Token} (h : ∀ c ∈ blanks, Text.isBlank c = true)
    (ht : t.WellFormed) (rest : List Char) :
    (blanks ++ (t.text.toList ++ rest)).takeWhile Text.isBlank = blanks := by
  obtain ⟨c, s, htext, hc⟩ := exists_nonblank ht
  rw [List.takeWhile_append_of_pos h, htext, List.cons_append, List.takeWhile_cons, hc]
  exact List.append_nil blanks

/-- A text has one proper layout with the same tokens. -/
theorem layout_unique {l l' : Layout} (h : l.Proper) (h' : l'.Proper) (hchars : l.chars = l'.chars)
    (htokens : l.tokens = l'.tokens) : l = l' := by
  induction l generalizing l' with
  | finish blanks =>
    cases l' with
    | finish blanks' => exact congrArg Layout.finish hchars
    | token blanks' t' rest' => cases htokens
  | token blanks t rest ih =>
    cases l' with
    | finish blanks' => cases htokens
    | token blanks' t' rest' =>
      obtain ⟨hblanks, hwell, -, hrest⟩ := h
      obtain ⟨hblanks', -, -, hrest'⟩ := h'
      obtain ⟨rfl, hrests⟩ := List.cons.inj htokens
      rw [Layout.chars, Layout.chars] at hchars
      have heq : blanks = blanks' := by
        rw [← takeWhile_blanks hblanks hwell rest.chars, hchars, takeWhile_blanks hblanks' hwell]
      subst heq
      rw [List.append_cancel_left_eq, List.append_cancel_left_eq] at hchars
      rw [ih hrest hrest' hchars hrests]

end ScanningLemmas

/-! ## 7. Tokens joined by spaces -/

/-- The tokens with single spaces between them, and `blanks` before the first. -/
def Layout.spaced (blanks : List Char) : List Token → Layout
  | [] => finish []
  | t :: ts => token blanks t (spaced [' '] ts)

namespace ScanningLemmas

theorem parted_spaced (ts : List Token) : (Layout.spaced [' '] ts).Parted := by
  cases ts with
  | nil => trivial
  | cons t ts => exact fun _ => List.cons_ne_nil _ _

theorem proper_spaced {ts : List Token} (h : ∀ t ∈ ts, t.WellFormed) {blanks : List Char}
    (hblanks : ∀ c ∈ blanks, Text.isBlank c = true) : (Layout.spaced blanks ts).Proper := by
  induction ts generalizing blanks with
  | nil =>
    intro c hc
    cases hc
  | cons t ts ih =>
    refine ⟨hblanks, h t List.mem_cons_self, fun _ => parted_spaced ts, ?_⟩
    refine ih (fun t' ht' => h t' (List.mem_cons_of_mem t ht')) ?_
    exact List.forall_mem_singleton.2 (by decide)

theorem chars_spaced (blanks : List Char) (t : Token) (ts : List Token) :
    (Layout.spaced blanks (t :: ts)).chars =
      blanks ++ [' '].intercalate ((t :: ts).map fun t => t.text.toList) := by
  induction ts generalizing blanks t with
  | nil => rw [Layout.spaced, Layout.spaced, Layout.chars, Layout.chars, List.append_nil,
      List.map_singleton, List.intercalate_singleton]
  | cons t' ts ih =>
    rw [Layout.spaced, Layout.chars, ih, List.map_cons, List.map_cons, List.map_cons,
      List.intercalate_cons_cons, List.append_assoc]

theorem tokens_spaced (blanks : List Char) (ts : List Token) :
    (Layout.spaced blanks ts).tokens = ts := by
  induction ts generalizing blanks with
  | nil => rfl
  | cons t ts ih => exact congrArg (t :: ·) (ih [' '])

end ScanningLemmas

/-! ## 8. The tokens of a text -/

/-- The tokens of a text are well-formed. -/
theorem wellFormed_of_proper {l : Layout} (h : l.Proper) : ∀ t ∈ l.tokens, t.WellFormed := by
  induction l with
  | finish blanks =>
    intro t ht
    cases ht
  | token blanks t rest ih => exact List.forall_mem_cons.2 ⟨h.2.1, ih h.2.2.2⟩

/-- The layout of a text. -/
theorem exists_layout_tokenize (formula : String) :
    ∃ l : Layout, l.Proper ∧ l.chars = formula.toList ∧ l.tokens = tokenize formula := by
  have hnil : Pending ([] : List Char).reverse formula.toList := pending_nil _
  exact exists_layout hnil

theorem tokenize_of_layout {l : Layout} (h : l.Proper) {formula : String}
    (hchars : l.chars = formula.toList) : tokenize formula = l.tokens := by
  rw [tokenize, ← hchars, scan_layout h]

/-- Well-formed tokens joined by single spaces are the tokens of the text. -/
theorem tokenize_intercalate {ts : List Token} (h : ∀ t ∈ ts, t.WellFormed) :
    tokenize (" ".intercalate (ts.map Token.text)) = ts := by
  have hproper : (Layout.spaced [] ts).Proper := proper_spaced h fun c hc => by cases hc
  refine (tokenize_of_layout hproper ?_).trans (tokens_spaced [] ts)
  rw [String.toList_intercalate, List.map_map]
  cases ts with
  | nil => rfl
  | cons t ts => exact chars_spaced [] t ts

/-- A text has one proper layout, its tokens are those of `tokenize`, and well-formed tokens joined
by single spaces come back. -/
theorem tokenize_correct :
    (∀ (formula : String) (ts : List Token), tokenize formula = ts ↔
        ∃ l : Layout, l.Proper ∧ l.chars = formula.toList ∧ l.tokens = ts) ∧
      (∀ formula : String, ∃ l : Layout, (l.Proper ∧ l.chars = formula.toList) ∧
        ∀ l' : Layout, l'.Proper → l'.chars = formula.toList → l' = l) ∧
      ∀ ts : List Token, (∀ t ∈ ts, t.WellFormed) →
        tokenize (" ".intercalate (ts.map Token.text)) = ts := by
  refine ⟨fun formula ts => ⟨?_, ?_⟩, fun formula => ?_, fun ts h => tokenize_intercalate h⟩
  · rintro rfl
    exact exists_layout_tokenize formula
  · rintro ⟨l, hl, hchars, rfl⟩
    exact tokenize_of_layout hl hchars
  · obtain ⟨l, hl, hchars, htokens⟩ := exists_layout_tokenize formula
    refine ⟨l, ⟨hl, hchars⟩, fun l' hl' hchars' => ?_⟩
    refine layout_unique hl' hl (hchars'.trans hchars.symm) ?_
    rw [htokens, tokenize_of_layout hl' hchars']

end Formulary

import Formulary.Proofs.Runs
import Formulary.Proofs.Parsing

/-!
# Progress and depth of the parser

With enough stack and enough rounds the counted parser ends, and with the answer of the parser. How
much stack is enough does not depend on the tokens: between two levels of the formula there are at
most four calls, and there are at most `maxDepth` levels. One invariant goes through all four
procedures: a call that begins at a depth that has been paid for with tokens ends well only further
on, at the same depth, with an expression no higher than the tokens it took.

* `Advances tokens entry exit m`: what holds when the expression `m` has been read.
* `Ready tokens c`: where a call may begin.
* `Orderly tokens s`: all the recorded calls are `Disciplined`, and the depth has never gone below
  zero.
* `Tells tokens entry answer r s`: a run has come to `s` with the result `r`, which agrees with
  `answer`, and its record is in order.
* `Keeps tokens stack call`: where this much stack is enough, what is called ends and tells what is
  read in its role.

Results.
* Procedures keep to the bounds, with one more place on the stack, if what they call does
  (`keeps_body`); so calls keep to them, for any stack (`keeps_call`).
* The counted parser gives the answer of the parser, and all its calls keep to the bounds on
  position, depth and height (`countedParse_disciplined`).
-/

namespace Formulary

open GrammarLemmas ReadingLemmas Run RunsLemmas

/-! ## 1. What a call keeps to -/

/-- From `entry` to `exit`, tokens have been read as the expression `m`. -/
structure Advances (tokens : List Token) (entry exit : Cursor) (m : Measured) : Prop where
  forward : entry.position < exit.position
  inside : exit.position ≤ tokens.length
  depth : exit.depth = entry.depth
  height : m.height = m.expr.height
  low : m.height ≤ maxDepth
  /-- Every level of the expression has taken a token. -/
  short : entry.position + m.height ≤ exit.position

/-- The number of procedures through which the procedure is called at the same depth. -/
def Procedure.rank : Procedure → Nat
  | chain .sum => 0
  | chain .product => 1
  | power => 2
  | factor => 3

theorem Procedure.rank_le : ∀ p : Procedure, p.rank ≤ 3
  | chain .sum | chain .product | power | factor => by decide

/-- A call may begin here. -/
structure Ready (tokens : List Token) (c : Cursor) : Prop where
  shallow : c.depth ≤ maxDepth
  /-- Every level of nesting has taken a token. -/
  earned : c.depth ≤ c.position
  inside : c.position ≤ tokens.length

/-- The call has begun where it may, and has advanced if it ended well. -/
structure Call.Disciplined (tokens : List Token) (call : Call) : Prop where
  ready : Ready tokens call.entry
  advances : ∀ m, call.answer = .ok m → Advances tokens call.entry call.exit m

/-- All that has been recorded is in order. -/
structure Orderly (tokens : List Token) (s : Progress) : Prop where
  calls : ∀ call ∈ s.calls, call.Disciplined tokens
  leaves : ∀ d ∈ s.leaves, 0 < d

/-- The run has come from `entry` to `s` with the result `r`, and `answer` says the same. -/
structure Tells (tokens : List Token) (entry : Cursor)
    (answer : Except ParseError (Expr × List Token)) (r : Except ParseError Measured)
    (s : Progress) : Prop where
  orderly : Orderly tokens s
  ok : ∀ m, r = .ok m →
    Advances tokens entry s.toCursor m ∧ answer = .ok (m.expr, tokens.drop s.position)
  error : ∀ e, r = .error e → answer = .error e ∧ (e = .tooDeep → maxDepth < tokens.length)

/-- The run ends, with a result and counters of which `P` holds. -/
def Run.Ends {α : Type} (x : Run α) (s : Progress) (P : Except ParseError α → Progress → Prop) :
    Prop :=
  ∃ r s', x.run.run s = some (r, s') ∧ P r s'

/-- Where this much stack is enough, what is called ends and tells what is read in its role. There
is a place for each procedure on each of the levels that are left. -/
def Keeps (tokens : List Token) (stack : Nat) (call : Procedure → Run Measured) : Prop :=
  ∀ p depth s, s.depth = depth → Ready tokens s.toCursor → Orderly tokens s →
    4 * (maxDepth + 1) ≤ stack + 4 * depth + p.rank →
    (call p).Ends s
      (Tells tokens s.toCursor (p.role.read (maxDepth - depth) (tokens.drop s.position)))

/-! ## 2. Advancing -/

variable {tokens : List Token} {entry exit c c' : Cursor} {m left right : Measured}

theorem Ready.advance (h : Ready tokens entry) (hm : Advances tokens entry exit m) :
    Ready tokens exit where
  shallow := hm.depth ▸ h.shallow
  earned := by
    have := h.earned
    have := hm.forward
    have := hm.depth
    omega
  inside := hm.inside

/-- Read between parentheses, or after the name of a logarithm. -/
theorem Advances.widen (h : Advances tokens c c' m) (hentry : entry.position ≤ c.position)
    (hdepth : exit.depth = entry.depth) (hexit : c'.position ≤ exit.position)
    (hinside : exit.position ≤ tokens.length) : Advances tokens entry exit m where
  forward := Nat.lt_of_le_of_lt hentry (Nat.lt_of_lt_of_le h.forward hexit)
  inside := hinside
  depth := hdepth
  height := h.height
  low := h.low
  short := by
    have := h.short
    omega

/-- An expression over one that has been read, if a token more has been read than for that. -/
theorem Advances.call {f : Logarithm} (h : Advances tokens c c' m)
    (hentry : entry.position < c.position) (hdepth : exit.depth = entry.depth)
    (hexit : c'.position ≤ exit.position) (hinside : exit.position ≤ tokens.length)
    (hlow : m.height + 1 ≤ maxDepth) :
    Advances tokens entry exit ⟨.call f m.expr, m.height + 1⟩ where
  forward := Nat.lt_trans hentry (Nat.lt_of_lt_of_le h.forward hexit)
  inside := hinside
  depth := hdepth
  height := congrArg (· + 1) h.height
  low := hlow
  short := by
    have := h.short
    dsimp only
    omega

/-- Two operands with an operator between them. -/
theorem Advances.binary {op : Operator} (hleft : Advances tokens entry c left)
    (hright : Advances tokens c' exit right) (hoperator : c.position < c'.position)
    (hdepth : exit.depth = entry.depth) (hlow : 1 + max left.height right.height ≤ maxDepth) :
    Advances tokens entry exit
      ⟨.binary op left.expr right.expr, 1 + max left.height right.height⟩ where
  forward := Nat.lt_trans hleft.forward (Nat.lt_trans hoperator hright.forward)
  inside := hright.inside
  depth := hdepth
  height := by
    rw [hleft.height, hright.height, Nat.add_comm]
    rfl
  low := hlow
  short := by
    have := hleft.short
    have := hright.short
    dsimp only
    omega

/-- A single token. -/
theorem Advances.leaf {e : Expr} (he : e.height = 1)
    (hposition : exit.position = entry.position + 1) (hdepth : exit.depth = entry.depth)
    (hinside : exit.position ≤ tokens.length) :
    Advances tokens entry exit ⟨e, 1⟩ where
  forward := by omega
  inside := hinside
  depth := hdepth
  height := he.symm
  low := ParsingLemmas.one_le_maxDepth
  short := Nat.le_of_eq hposition.symm

namespace ProgressLemmas

variable {α β : Type} {ts : List Token} {s s' : Progress}

/-! ## 3. What runs tell -/

theorem drop_succ {n : Nat} {t : Token} (h : tokens.drop n = t :: ts) :
    tokens.drop (n + 1) = ts ∧ n < tokens.length := by
  constructor
  · rw [← List.tail_drop, h, List.tail_cons]
  · refine Nat.lt_of_not_le fun hle => ?_
    rw [List.drop_eq_nil_of_le hle] at h
    cases h

theorem ends_bind {x : Run α} {f : α → Run β} {a : α} {P : Except ParseError β → Progress → Prop}
    (h : x.run.run s = some (.ok a, s')) (hf : (f a).Ends s' P) : (x >>= f).Ends s P := by
  obtain ⟨r, t, hrun, hP⟩ := hf
  exact ⟨r, t, (run_bind h).trans hrun, hP⟩

variable {answer : Except ParseError (Expr × List Token)} {e : ParseError}
  {g : Expr × List Token → Except ParseError (Expr × List Token)}

theorem tells_ok (hs : Orderly tokens s) (hm : Advances tokens entry s.toCursor m) :
    Tells tokens entry (.ok (m.expr, tokens.drop s.position)) (.ok m) s where
  orderly := hs
  ok := by
    rintro m ⟨⟩
    exact ⟨hm, rfl⟩
  error := by
    rintro e ⟨⟩

theorem tells_error (hs : Orderly tokens s) (he : e = .tooDeep → maxDepth < tokens.length) :
    Tells tokens entry (.error e) (.error e) s where
  orderly := hs
  ok := by
    rintro m ⟨⟩
  error := by
    rintro e ⟨⟩
    exact ⟨rfl, he⟩

theorem ends_pure (hs : Orderly tokens s) (hm : Advances tokens entry s.toCursor m) :
    Run.Ends (pure m) s (Tells tokens entry (.ok (m.expr, tokens.drop s.position))) :=
  ⟨.ok m, s, rfl, tells_ok hs hm⟩

theorem ends_throw (hs : Orderly tokens s) (he : e ≠ .tooDeep) :
    Run.Ends (throw e) s (Tells tokens entry (.error e)) :=
  ⟨.error e, s, rfl, tells_error hs fun h => absurd h he⟩

/-- What a part tells, carried over to the whole. -/
theorem ends_tells_bind {x : Run Measured} {f : Measured → Run Measured}
    (hx : x.Ends s (Tells tokens c answer))
    (hf : ∀ m s', Orderly tokens s' → Advances tokens c s'.toCursor m →
      (f m).Ends s' (Tells tokens entry (g (m.expr, tokens.drop s'.position)))) :
    (x >>= f).Ends s (Tells tokens entry (answer >>= g)) := by
  obtain ⟨r, s', hrun, htells⟩ := hx
  cases r with
  | error e =>
    obtain ⟨hanswer, hdeep⟩ := htells.error e rfl
    rw [hanswer]
    exact ⟨.error e, s', run_bind_error hrun, tells_error htells.orderly hdeep⟩
  | ok m =>
    obtain ⟨hm, hanswer⟩ := htells.ok m rfl
    rw [hanswer]
    exact ends_bind hrun (hf m s' htells.orderly hm)

/-- The height counted is the height checked. -/
theorem ends_measured {e : Expr} {h : Nat} {f : Measured → Run Measured}
    {g : Expr → Except ParseError (Expr × List Token)} (hs : Orderly tokens s)
    (heq : h = e.height) (hlength : h ≤ tokens.length)
    (hf : h ≤ maxDepth → (f ⟨e, h⟩).Ends s (Tells tokens entry (g e))) :
    (measured e h >>= f).Ends s (Tells tokens entry (checkHeight e >>= g)) := by
  have hrun := run_measured (s := s) e h
  split at hrun
  · next hlt =>
    rw [checkHeight_of_lt (heq ▸ hlt)]
    exact ⟨_, _, run_bind_error hrun, tells_error hs fun _ => Nat.lt_of_lt_of_le hlt hlength⟩
  · next hle =>
    rw [checkHeight_of_le (heq ▸ Nat.not_lt.1 hle)]
    exact ends_bind hrun (hf (Nat.not_lt.1 hle))

/-- A closing parenthesis, as the procedures and as the roles take it. -/
theorem ends_takeClose {missing : ParseError} {f : Unit → Run Measured} (hs : Orderly tokens s)
    (hmissing : missing ≠ .tooDeep)
    (hf : s.position < tokens.length → (f ()).Ends { s with position := s.position + 1 }
      (Tells tokens entry (g (m.expr, tokens.drop (s.position + 1))))) :
    (takeClose tokens missing >>= f).Ends s
      (Tells tokens entry (closeAfter missing (m.expr, tokens.drop s.position) >>= g)) := by
  have hrun := run_takeClose tokens s missing
  obtain ⟨ts, hdrop, hclose⟩ | ⟨hhead, hclose⟩ :=
    ParsingLemmas.closeAfter_cases missing m.expr (tokens.drop s.position)
  · obtain ⟨hrest, hlt⟩ := drop_succ hdrop
    rw [hdrop, List.head?_cons, if_pos rfl] at hrun
    rw [hclose, ← hrest]
    exact ends_bind hrun (hf hlt)
  · rw [if_neg hhead] at hrun
    rw [hclose]
    exact ⟨_, _, run_bind_error hrun, tells_error hs fun h => absurd h hmissing⟩

/-! ## 4. One lemma for each procedure -/

variable {call : Procedure → Run Measured} {stack rounds depth : Nat} {p : Procedure}

/-- Recording keeps the record in order. -/
theorem keeps_recorded (h : Keeps tokens stack call) :
    Keeps tokens stack fun p => recorded p (call p) := by
  intro p depth s hdepth hready hs hstack
  obtain ⟨r, s', hrun, htells⟩ := h p depth s hdepth hready hs hstack
  refine ⟨r, { s' with calls := s'.calls ++ [⟨p, s.toCursor, r, s'.toCursor⟩] },
    by rw [run_recorded, hrun]; rfl, ⟨fun call hcall => ?_, htells.orderly.leaves⟩, htells.ok,
    htells.error⟩
  rcases List.mem_append.1 hcall with hbefore | hlast
  · exact htells.orderly.calls call hbefore
  · obtain rfl := List.mem_singleton.1 hlast
    exact ⟨hready, fun m hm => (htells.ok m hm).1⟩

/-- One level further down, with a token taken for it. -/
theorem ends_inside (h : Keeps tokens stack call) (hdepth : s.depth = depth)
    (hready : Ready tokens s.toCursor) (htaken : s.depth < s.position) (hs : Orderly tokens s)
    (hstack : 4 * (maxDepth + 1) ≤ stack + 4 * (depth + 1) + p.rank) :
    (inside (call p)).Ends s
      (Tells tokens s.toCursor (p.role.readInner (maxDepth - depth) (tokens.drop s.position))) := by
  subst hdepth
  rw [inside]
  have henter := run_enter (s := s)
  split at henter
  · next hlt =>
    -- all the levels are open
    have hlevels : maxDepth - s.depth = 0 := by omega
    have hlength := hready.inside
    rw [hlevels]
    exact ⟨_, _, run_bind_error henter, tells_error ⟨hs.calls, hs.leaves⟩ fun _ => by omega⟩
  · next hle =>
    have hlevels : maxDepth - s.depth = maxDepth - (s.depth + 1) + 1 := by omega
    have hready' : Ready tokens ⟨s.position, s.depth + 1⟩ :=
      ⟨Nat.not_lt.1 hle, htaken, hready.inside⟩
    rw [hlevels, Role.readInner]
    have hcall := h p (s.depth + 1) { s with depth := s.depth + 1 } rfl hready'
      ⟨hs.calls, hs.leaves⟩ hstack
    refine ends_bind henter ?_
    rw [← bind_pure (p.role.read _ _)]
    refine ends_tells_bind hcall fun m s' hs' hm => ends_bind run_leave (ends_pure ?_ ?_)
    · refine ⟨hs'.calls, fun d hd => ?_⟩
      rcases List.mem_append.1 hd with hbefore | hlast
      · exact hs'.leaves d hbefore
      · obtain rfl := List.mem_singleton.1 hlast
        rw [hm.depth]
        exact Nat.succ_pos _
    · have hback : s'.depth - 1 = s.depth := by rw [hm.depth, Nat.add_sub_cancel]
      exact hm.widen (Nat.le_refl _) hback (Nat.le_refl _) hm.inside

theorem ends_factor (h : Keeps tokens stack call) (hdepth : s.depth = depth)
    (hready : Ready tokens s.toCursor) (hs : Orderly tokens s)
    (hstack : 4 * (maxDepth + 1) ≤ stack + 1 + 4 * depth + Procedure.factor.rank) :
    (Procedure.factor.body tokens call rounds).Ends s
      (Tells tokens s.toCursor (Role.factor.read (maxDepth - depth) (tokens.drop s.position))) := by
  have hinner : 4 * (maxDepth + 1) ≤ stack + 4 * (depth + 1) + (Procedure.chain .sum).rank := by
    dsimp only [Procedure.rank] at hstack ⊢
    omega
  have hearned := hready.earned
  rw [Procedure.body]
  refine ends_bind run_nextToken? ?_
  rcases hdrop : tokens.drop s.position with _ | ⟨t, ts⟩
  · rw [read_nil]
    exact ends_throw hs (by simp)
  obtain ⟨rfl, hlt⟩ := drop_succ hdrop
  cases t with
  | openParen =>
    rw [read_group]
    refine ends_bind run_consume (ends_tells_bind
      (ends_inside h hdepth ⟨hready.shallow, Nat.le_succ_of_le hearned, hlt⟩
        (Nat.lt_succ_of_le hearned) ⟨hs.calls, hs.leaves⟩ hinner) fun m s' hs' hm => ?_)
    rw [← bind_pure (closeAfter _ _)]
    refine ends_takeClose hs' (by simp) fun hlt' => ends_pure ⟨hs'.calls, hs'.leaves⟩ ?_
    exact hm.widen (Nat.le_succ _) hm.depth (Nat.le_succ _) hlt'
  | logarithm f =>
    refine ends_bind run_consume (ends_bind run_nextToken? ?_)
    by_cases hopen : (tokens.drop (s.position + 1)).head? = some .openParen
    · obtain ⟨ts, hdrop'⟩ := List.head?_eq_some_iff.1 hopen
      obtain ⟨rfl, hlt'⟩ := drop_succ hdrop'
      rw [hdrop', read_call]
      refine ends_bind run_consume (ends_tells_bind
        (ends_inside h hdepth ⟨hready.shallow, by dsimp only; omega, hlt'⟩
          (by dsimp only; omega) ⟨hs.calls, hs.leaves⟩ hinner) fun m s' hs' hm => ?_)
      refine ends_takeClose hs' (by simp) fun hlt' => ?_
      have hlength := hm.short
      dsimp only at hlength
      rw [← bind_pure (measured _ _)]
      refine ends_measured ⟨hs'.calls, hs'.leaves⟩ (congrArg (· + 1) hm.height) (by omega)
        fun hlow => ends_pure ⟨hs'.calls, hs'.leaves⟩ ?_
      exact hm.call (by dsimp only; omega) hm.depth (Nat.le_succ _) hlt' hlow
    · rw [read_name _ f hopen]
      split
      · next h => exact absurd h hopen
      · exact ends_throw ⟨hs.calls, hs.leaves⟩ (by simp)
  | literal text =>
    rw [read_literal]
    dsimp only [List.head?_cons]
    obtain ⟨d, -, -, hvalue⟩ | ⟨error, hvalue, hrefuses⟩ := literalValue_cases text
    · rw [hvalue]
      refine ends_bind (a := d.toFloat false) rfl (ends_bind run_consume ?_)
      exact ends_pure ⟨hs.calls, hs.leaves⟩ (.leaf rfl rfl rfl hlt)
    · have herror : error ≠ .tooDeep := by
        rintro rfl
        cases hrefuses []
      rw [hvalue]
      exact ends_throw hs herror
  | letter name =>
    rw [read_letter]
    exact ends_bind run_consume (ends_pure ⟨hs.calls, hs.leaves⟩ (.leaf rfl rfl rfl hlt))
  | operator op => exact ends_throw hs (by simp)
  | closeParen => exact ends_throw hs (by simp)

/-- The two operands and the operator make an expression that has advanced over all of them. -/
theorem ends_binary {f : Measured → Run Measured} {g : Expr → Except ParseError (Expr × List Token)}
    {op : Operator} (hs : Orderly tokens s) (hleft : Advances tokens entry c left)
    (hright : Advances tokens c' s.toCursor right) (hoperator : c.position < c'.position)
    (hdepth : s.depth = entry.depth)
    (hf : ∀ m, m.expr = .binary op left.expr right.expr → Advances tokens entry s.toCursor m →
      (f m).Ends s (Tells tokens entry (g m.expr))) :
    (binary op left right >>= f).Ends s
      (Tells tokens entry (checkHeight (.binary op left.expr right.expr) >>= g)) := by
  have hshort := hleft.short
  have hshort' := hright.short
  have hinside := hright.inside
  refine ends_measured hs ?_ (by omega) fun hlow =>
    hf _ rfl (hleft.binary hright hoperator hdepth hlow)
  rw [hleft.height, hright.height, Nat.add_comm]
  rfl

theorem ends_power (h : Keeps tokens stack call) (hdepth : s.depth = depth)
    (hready : Ready tokens s.toCursor) (hs : Orderly tokens s)
    (hstack : 4 * (maxDepth + 1) ≤ stack + 1 + 4 * depth + Procedure.power.rank) :
    (Procedure.power.body tokens call rounds).Ends s
      (Tells tokens s.toCursor (Role.power.read (maxDepth - depth) (tokens.drop s.position))) := by
  have hfactor : 4 * (maxDepth + 1) ≤ stack + 4 * depth + Procedure.factor.rank := by
    dsimp only [Procedure.rank] at hstack ⊢
    omega
  have hpower : 4 * (maxDepth + 1) ≤ stack + 4 * (depth + 1) + Procedure.power.rank := by omega
  rw [Procedure.body, read_power]
  refine ends_tells_bind (h .factor depth s hdepth hready hs hfactor) fun base s' hs' hbase => ?_
  have hready' := hready.advance hbase
  obtain ⟨op, ts, hdrop, hop, hrun⟩ | ⟨hother, hrun⟩ := takeOperator?_cases tokens s' (· == .power)
  · obtain ⟨rfl, hlt⟩ := drop_succ hdrop
    obtain rfl := beq_iff_eq.1 hop
    refine ends_bind hrun ?_
    dsimp only
    rw [hdrop]
    refine ends_tells_bind (ends_inside h (hbase.depth.trans hdepth)
      ⟨hready'.shallow, Nat.le_succ_of_le hready'.earned, hlt⟩ (Nat.lt_succ_of_le hready'.earned)
      ⟨hs'.calls, hs'.leaves⟩ hpower) fun exponent t ht hexponent => ?_
    rw [← bind_pure (binary _ _ _)]
    refine ends_binary ht hbase hexponent (Nat.lt_succ_self _) (hexponent.depth.trans hbase.depth)
      fun m hm hadvances => ?_
    exact ends_pure ht hadvances
  · refine ends_bind hrun ?_
    dsimp only
    split
    · next ts hdrop => exact absurd (hother .power (by rw [hdrop]; rfl)) (by decide)
    · exact ends_pure hs' hbase

theorem role_operandProcedure (c : Chain) : c.operandProcedure.role = c.operand := by
  cases c <;> rfl

theorem rank_operandProcedure (c : Chain) :
    c.operandProcedure.rank = (Procedure.chain c).rank + 1 := by
  cases c <;> rfl

/-- The rounds of a chain go on from what has been read since `entry`. -/
theorem ends_loop {c : Chain} (h : Keeps tokens stack call)
    (hstack : 4 * (maxDepth + 1) ≤ stack + 4 * entry.depth + c.operandProcedure.rank)
    (hrounds : tokens.length < rounds + s.position) (left : Measured)
    (hready : Ready tokens s.toCursor) (hs : Orderly tokens s)
    (hleft : Advances tokens entry s.toCursor left) :
    (loop tokens c (call c.operandProcedure) rounds left).Ends s (Tells tokens entry
      ((Role.tail c left.expr).read (maxDepth - entry.depth) (tokens.drop s.position))) := by
  -- every round takes the operator that it begins with
  induction rounds generalizing left s with
  | zero =>
    rw [Nat.zero_add] at hrounds
    exact absurd hready.inside (Nat.not_le.2 hrounds)
  | succ rounds ih =>
    rw [loop]
    obtain ⟨op, ts, hdrop, hop, hrun⟩ | ⟨hother, hrun⟩ := takeOperator?_cases tokens s c.joins
    · obtain ⟨rfl, hlt⟩ := drop_succ hdrop
      have hready' : Ready tokens ⟨s.position + 1, s.depth⟩ :=
        ⟨hready.shallow, Nat.le_succ_of_le hready.earned, hlt⟩
      have hcall := h c.operandProcedure entry.depth { s with position := s.position + 1 }
        hleft.depth hready' ⟨hs.calls, hs.leaves⟩ hstack
      rw [role_operandProcedure] at hcall
      refine ends_bind hrun ?_
      rw [hdrop, read_join _ _ hop]
      refine ends_tells_bind hcall fun right t ht hright => ?_
      refine ends_binary ht hleft hright (Nat.lt_succ_self _) (hright.depth.trans hleft.depth)
        fun next hnext hadvances => ?_
      have hforward := hright.forward
      exact ih (by dsimp only at hforward; omega) next (hready'.advance hright) ht hadvances
    · refine ends_bind hrun ?_
      rw [read_done _ _ _ hother]
      exact ends_pure hs hleft

theorem ends_chain {c : Chain} (h : Keeps tokens stack call) (hrounds : tokens.length < rounds)
    (hdepth : s.depth = depth) (hready : Ready tokens s.toCursor) (hs : Orderly tokens s)
    (hstack : 4 * (maxDepth + 1) ≤ stack + 1 + 4 * depth + (Procedure.chain c).rank) :
    ((Procedure.chain c).body tokens call rounds).Ends s (Tells tokens s.toCursor
      ((Role.chain c).read (maxDepth - depth) (tokens.drop s.position))) := by
  subst hdepth
  have hoperand : 4 * (maxDepth + 1) ≤ stack + 4 * s.depth + c.operandProcedure.rank := by
    rw [rank_operandProcedure]
    omega
  have hcall := h c.operandProcedure s.depth s rfl hready hs hoperand
  rw [role_operandProcedure] at hcall
  rw [Procedure.body, read_chain]
  refine ends_tells_bind hcall fun first t ht hfirst => ?_
  exact ends_loop h hoperand (Nat.lt_of_lt_of_le hrounds (Nat.le_add_right _ _)) first
    (hready.advance hfirst) ht hfirst

end ProgressLemmas

open ProgressLemmas

variable {call : Procedure → Run Measured} {stack rounds : Nat}

/-- Procedures keep to the bounds, with one more place on the stack, if what they call does. -/
theorem keeps_body (h : Keeps tokens stack call) (hrounds : tokens.length < rounds) :
    Keeps tokens (stack + 1) (Procedure.body tokens call rounds) := by
  intro p depth s hdepth hready hs hstack
  cases p with
  | chain c => exact ends_chain h hrounds hdepth hready hs hstack
  | power => exact ends_power h hdepth hready hs hstack
  | factor => exact ends_factor h hdepth hready hs hstack

/-- Whatever the stack, calls keep to their bounds as far as it goes. -/
theorem keeps_call (hrounds : tokens.length < rounds) (stack : Nat) :
    Keeps tokens stack (Procedure.call tokens rounds stack) := by
  induction stack with
  | zero =>
    -- at no depth is an empty stack enough
    intro p depth s hdepth hready hs hstack
    have hshallow := hready.shallow
    have hrank := p.rank_le
    omega
  | succ stack ih => exact keeps_recorded (keeps_body ih hrounds)

/-- With enough stack and enough rounds the run ends with the answer of the parser, and all that it
records is in order. -/
theorem exists_run_countedParse (hstack : 4 * (maxDepth + 1) ≤ stack)
    (hrounds : tokens.length < rounds) :
    ∃ s, (countedParse tokens stack rounds).run.run .start = some (parse tokens, s) ∧
      Orderly tokens s ∧ (∃ call ∈ s.calls, call.procedure = .chain .sum ∧ call.entry = ⟨0, 0⟩) ∧
      (parse tokens = .error .tooDeep → maxDepth < tokens.length) := by
  have hready : Ready tokens Progress.start.toCursor :=
    ⟨Nat.zero_le _, Nat.le_refl _, Nat.zero_le _⟩
  have horderly : Orderly tokens .start := ⟨by simp [Progress.start], by simp [Progress.start]⟩
  obtain ⟨r, s, hrun, htells⟩ :=
    keeps_call hrounds stack (.chain .sum) 0 .start rfl hready horderly hstack
  have hcall : ∃ call ∈ s.calls, call.procedure = .chain .sum ∧ call.entry = ⟨0, 0⟩ := by
    cases stack with
    | zero => cases hrun
    | succ stack => exact ⟨_, mem_calls_of_run_recorded hrun, rfl, rfl⟩
  cases r with
  | error e =>
    obtain ⟨hanswer, hdeep⟩ := htells.error e rfl
    have hread : (Role.chain .sum).read maxDepth tokens = .error e := hanswer
    have hparse : parse tokens = .error e := by rw [parse_eq, hread]; rfl
    rw [hparse]
    exact ⟨s, run_bind_error hrun, htells.orderly, hcall, fun h => hdeep (Except.error.inj h)⟩
  | ok m =>
    have hread : (Role.chain .sum).read maxDepth tokens = .ok (m.expr, tokens.drop s.position) :=
      (htells.ok m rfl).2
    refine ⟨s, ?_, htells.orderly, hcall, ?_⟩
    · rw [countedParse, run_bind hrun, run_bind run_nextToken?, parse_eq, hread]
      cases tokens.drop s.position <;> rfl
    · -- what is left over is not too deep
      rw [parse_eq, hread]
      cases tokens.drop s.position <;> rintro ⟨⟩

/-- Counting changes nothing: the run ends, and with the answer of the parser. It makes do with a
stack of a fixed size, however many tokens there are, and with a round for each token and one more;
given more, it is the same run. Every call begins at a depth that is not too much; if it ends well,
it has gone forward within the tokens, is back at its depth, and has counted the height of its
expression, which is not above the number of tokens it took. Nothing comes up from depth zero, and
short lists of tokens are not nested too deeply, be they formulas or not. -/
theorem countedParse_disciplined (tokens : List Token) :
    ∃ s, (∀ k j, (countedParse tokens (1028 + k) (tokens.length + 1 + j)).run.run .start =
        some (parse tokens, s)) ∧
      (∃ call ∈ s.calls, call.procedure = .chain .sum ∧ call.entry = ⟨0, 0⟩) ∧
      (∀ call ∈ s.calls, call.entry.depth ≤ 256 ∧
        ∀ m, call.answer = .ok m →
          call.entry.position < call.exit.position ∧ call.exit.position ≤ tokens.length ∧
          call.exit.depth = call.entry.depth ∧ m.height = m.expr.height ∧ m.height ≤ 256 ∧
          m.height ≤ call.exit.position - call.entry.position) ∧
      (∀ d ∈ s.leaves, 0 < d) ∧
      (tokens.length ≤ 256 → parse tokens ≠ .error .tooDeep) := by
  have hstack : 4 * (maxDepth + 1) ≤ 1028 := Nat.le_refl _
  obtain ⟨s, hrun, horderly, houtermost, hdeep⟩ :=
    exists_run_countedParse hstack (Nat.lt_succ_self tokens.length)
  refine ⟨s, fun k j => run_countedParse_of_le (Nat.le_add_right _ k) (Nat.le_add_right _ j) hrun,
    houtermost, fun call hcall => ?_, horderly.leaves,
    fun hlength h => Nat.not_lt.2 hlength (hdeep h)⟩
  obtain ⟨hready, hadvances⟩ := horderly.calls call hcall
  refine ⟨hready.shallow, fun m hm => ?_⟩
  obtain ⟨hforward, hinside, hdepth, hheight, hlow, hshort⟩ := hadvances m hm
  exact ⟨hforward, hinside, hdepth, hheight, hlow, by omega⟩

/-- The group is left before the right operand that it stands in, and nine calls are open in it. -/
example :
    let leaves stack :=
      ((countedParse [.letter 'x', .operator .power, .openParen, .letter 'y', .closeParen] stack 6
        ).run.run .start).map (·.2.leaves)
    leaves 9 = some [2, 1] ∧ leaves 8 = none := by
  decide +kernel

end Formulary

import Formulary.Proofs.Calls

/-!
# Runs and their bounds

What the single steps of a run do to its counters, and that its bounds are nothing but bounds: a run
that ends is the same run with a larger stack and with more rounds.

* `x.Within y`: however `x` ends, `y` ends so too.

Results.
* What follows on a run is within what follows on a larger one (`Run.Within.bind`); so a procedure
  is within a procedure with larger calls and more rounds (`within_body`).
* Larger bounds leave the result and the record of a run as they are (`run_countedParse_of_le`).
-/

namespace Formulary

open Run

namespace RunsLemmas

variable {α β : Type} {tokens : List Token} {s s' : Progress}

/-! ## 1. Single steps -/

theorem run_bind {x : Run α} {f : α → Run β} {a : α} (h : x.run.run s = some (.ok a, s')) :
    (x >>= f).run.run s = (f a).run.run s' := by
  show (x.run.run s).bind _ = _
  rw [h]
  rfl

theorem run_bind_error {x : Run α} {f : α → Run β} {e : ParseError}
    (h : x.run.run s = some (.error e, s')) : (x >>= f).run.run s = some (.error e, s') := by
  show (x.run.run s).bind _ = _
  rw [h]
  rfl

theorem run_nextToken? :
    (nextToken? tokens).run.run s = some (.ok (tokens.drop s.position).head?, s) := by
  rw [List.head?_drop]
  rfl

theorem run_consume :
    consume.run.run s = some (.ok (), { s with position := s.position + 1 }) :=
  rfl

theorem run_leave : leave.run.run s =
    some (.ok (), { s with depth := s.depth - 1, leaves := s.leaves ++ [s.depth] }) :=
  rfl

theorem takeOperator?_cases (tokens : List Token) (s : Progress) (accepts : Operator → Bool) :
    (∃ op ts, tokens.drop s.position = .operator op :: ts ∧ accepts op = true ∧
      (takeOperator? tokens accepts).run.run s =
        some (.ok (some op), { s with position := s.position + 1 })) ∨
    (∀ op, (tokens.drop s.position).head? = some (.operator op) → accepts op = false) ∧
      (takeOperator? tokens accepts).run.run s = some (.ok none, s) := by
  rw [takeOperator?, run_bind run_nextToken?]
  cases tokens.drop s.position with
  | nil => exact .inr ⟨fun op h => (by cases h), rfl⟩
  | cons t ts =>
    cases t with
    | operator op =>
      rw [List.head?_cons]
      dsimp only
      cases hop : accepts op with
      | true => exact .inl ⟨op, ts, rfl, hop, rfl⟩
      | false =>
        refine .inr ⟨?_, rfl⟩
        rintro op ⟨⟩
        exact hop
    | _ => exact .inr ⟨fun op h => (by cases h), rfl⟩

theorem run_takeClose (tokens : List Token) (s : Progress) (missing : ParseError) :
    (takeClose tokens missing).run.run s =
      if (tokens.drop s.position).head? = some .closeParen then
        some (.ok (), { s with position := s.position + 1 })
      else some (.error missing, s) := by
  rw [takeClose, run_bind run_nextToken?]
  split
  · next h => rw [h]; rfl
  · next h =>
    split
    · next h' => exact absurd h' h
    · rfl

theorem run_enter : enter.run.run s =
    some (if maxDepth < s.depth + 1 then .error .tooDeep else .ok (),
      { s with depth := s.depth + 1 }) := by
  show (if maxDepth < s.depth + 1 then _ else _ : Run Unit).run.run _ = _
  split <;> rfl

theorem run_measured (e : Expr) (h : Nat) : (measured e h).run.run s =
    some (if maxDepth < h then .error .tooDeep else .ok ⟨e, h⟩, s) := by
  rw [measured]
  split <;> rfl

theorem run_recorded (p : Procedure) (x : Run Measured) : (recorded p x).run.run s =
    (x.run.run s).bind fun (r, s') =>
      some (r, { s' with calls := s'.calls ++ [⟨p, s.toCursor, r, s'.toCursor⟩] }) :=
  rfl

/-- What ends is recorded. -/
theorem mem_calls_of_run_recorded {p : Procedure} {x : Run Measured}
    {r : Except ParseError Measured} (h : (recorded p x).run.run s = some (r, s')) :
    ⟨p, s.toCursor, r, s'.toCursor⟩ ∈ s'.calls := by
  rw [run_recorded] at h
  obtain ⟨⟨r', t⟩, -, heq⟩ := Option.bind_eq_some_iff.1 h
  cases heq
  exact List.mem_append_right _ (List.mem_singleton_self _)

end RunsLemmas

open RunsLemmas

/-! ## 2. Larger bounds -/

variable {α β : Type}

/-- However the first run ends, the second one ends so too, with the same record. -/
def Run.Within (x y : Run α) : Prop :=
  ∀ s r, x.run.run s = some r → y.run.run s = some r

namespace Run.Within

variable {x y : Run α}

theorem refl (x : Run α) : x.Within x :=
  fun _ _ h => h

theorem bind {f g : α → Run β} (hx : x.Within y) (hf : ∀ a, (f a).Within (g a)) :
    (x >>= f).Within (y >>= g) := by
  intro s r h
  change (x.run.run s).bind _ = some r at h
  obtain ⟨⟨result, s'⟩, hrun, hrest⟩ := Option.bind_eq_some_iff.1 h
  cases result with
  | error e => exact (run_bind_error (hx _ _ hrun)).trans hrest
  | ok a => exact (run_bind (hx _ _ hrun)).trans (hf a _ _ hrest)

theorem inside {x y : Run Measured} (h : x.Within y) : (inside x).Within (inside y) :=
  bind (.refl _) fun _ => bind h fun _ => .refl _

theorem recorded {x y : Run Measured} (p : Procedure) (h : x.Within y) :
    (recorded p x).Within (recorded p y) := by
  intro s r hrun
  rw [run_recorded] at hrun ⊢
  obtain ⟨⟨result, s'⟩, hx, hrest⟩ := Option.bind_eq_some_iff.1 hrun
  rw [h _ _ hx]
  exact hrest

end Run.Within

namespace RunsLemmas

variable {tokens : List Token} {rounds rounds' : Nat}

theorem within_loop {operand operand' : Run Measured} (c : Chain)
    (hoperand : operand.Within operand') (hrounds : rounds ≤ rounds') (left : Measured) :
    (loop tokens c operand rounds left).Within (loop tokens c operand' rounds' left) := by
  induction rounds generalizing rounds' left with
  | zero =>
    intro s r h
    cases h
  | succ rounds ih =>
    obtain ⟨rounds', rfl⟩ := Nat.exists_eq_add_of_le' (Nat.lt_of_lt_of_le rounds.succ_pos hrounds)
    rw [loop, loop]
    refine .bind (.refl _) fun
      | none => .refl _
      | some op => ?_
    exact .bind hoperand fun right => .bind (.refl _) (ih (Nat.le_of_succ_le_succ hrounds))

end RunsLemmas

variable {tokens : List Token} {stack stack' rounds rounds' : Nat}

/-- A procedure is within the procedure with larger calls and more rounds. -/
theorem within_body {call call' : Procedure → Run Measured}
    (h : ∀ p, (call p).Within (call' p)) (hrounds : rounds ≤ rounds') (p : Procedure) :
    (p.body tokens call rounds).Within (p.body tokens call' rounds') := by
  cases p with
  | chain c =>
    exact .bind (h c.operandProcedure) (within_loop c (h c.operandProcedure) hrounds)
  | power =>
    refine .bind (h .factor) fun base => .bind (.refl _) fun
      | none => .refl _
      | some _ => .bind (.inside (h .power)) fun _ => .refl _
  | factor =>
    refine .bind (.refl _) fun
      | some .openParen => ?group
      | some (.logarithm f) => ?logarithm
      | none | some (.literal _) | some (.letter _) | some (.operator _) | some .closeParen =>
        .refl _
    case group => exact .bind (.refl _) fun _ => .bind (.inside (h _)) fun _ => .refl _
    case logarithm =>
      refine .bind (.refl _) fun _ => .bind (.refl _) fun
        | some .openParen => ?argument
        | none | some (.literal _) | some (.letter _) | some (.operator _) | some .closeParen
        | some (.logarithm _) => .refl _
      exact .bind (.refl _) fun _ => .bind (.inside (h _)) fun _ => .refl _

theorem within_call (hstack : stack ≤ stack') (hrounds : rounds ≤ rounds') (p : Procedure) :
    (p.call tokens rounds stack).Within (p.call tokens rounds' stack') := by
  induction stack generalizing stack' p with
  | zero =>
    intro s r h
    cases h
  | succ stack ih =>
    obtain ⟨stack', rfl⟩ := Nat.exists_eq_add_of_le' (Nat.lt_of_lt_of_le stack.succ_pos hstack)
    exact .recorded p (within_body (ih (Nat.le_of_succ_le_succ hstack)) hrounds p)

/-- Larger bounds leave the result and the record of a run as they are. -/
theorem run_countedParse_of_le (hstack : stack ≤ stack') (hrounds : rounds ≤ rounds')
    {s : Progress} {r : Except ParseError Expr × Progress}
    (h : (countedParse tokens stack rounds).run.run s = some r) :
    (countedParse tokens stack' rounds').run.run s = some r :=
  Run.Within.bind (within_call hstack hrounds _) (fun _ => .refl _) s r h

end Formulary

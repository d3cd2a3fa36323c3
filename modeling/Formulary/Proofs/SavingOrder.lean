import Formulary.Proofs.Libraries
import Formulary.Proofs.Storage
import Mathlib.Data.List.Induction

/-!
# Libraries as a matter of history

A library is a set of texts in order: each text stands where it was saved for the first time since
it was last removed. To save it again does not move it, and neither does writing the library to a
file and loading it.

* `LibraryCall`, `afterCalls calls`: what is asked of a library, and the library after it.
* `SavedLast calls f`: when the text was last saved or removed, it was saved.
* `EntersAt calls f n`: with call number `n` the text came in for the last time.
* `l.Lists calls`: the library lists what was saved last, in the order in which it came in.

Results.
* A text that was saved last came in with one call (`exists_entersAt`, `EntersAt.unique`).
* Each call keeps a library in line with its history (`Lists.save`, `Lists.remove`,
  `Lists.concat`).
* After any calls, a library lists the texts that were saved last, and it answers by what it lists
  (`lists_history`).
-/

namespace Formulary

/-! ## 1. Histories -/

/-- What is asked of a library. -/
inductive LibraryCall
  | save (formula : String)
  | remove (formula : String)
  | contains (formula : String)
  /-- The library is written to a file and loaded from it. -/
  | reload

namespace Library

/-- The library after the call. -/
def call (l : Library) : LibraryCall → Except LibraryError Library
  | .save formula => .ok (l.save formula).2
  | .remove formula => .ok (l.remove formula).2
  | .contains _ => .ok l
  | .reload => load (.ok l.stored.toUTF8)

/-- The library that is begun anew and asked all this, one after the other. -/
def afterCalls (calls : List LibraryCall) : Except LibraryError Library :=
  calls.foldlM call empty

/-- No call after the one with this number removes the text. -/
def StaysAfter (calls : List LibraryCall) (f : String) (n : Nat) : Prop :=
  ∀ m : Nat, n < m → calls[m]? ≠ some (.remove f)

/-- When the text was last saved or removed, it was saved. -/
def SavedLast (calls : List LibraryCall) (f : String) : Prop :=
  ∃ n : Nat, calls[n]? = some (.save f) ∧ StaysAfter calls f n

/-- The text stays after the call with this number, which is the first that saved it since it was
removed before, if it ever was. -/
structure EntersAt (calls : List LibraryCall) (f : String) (n : Nat) : Prop where
  saves : calls[n]? = some (.save f)
  stays : StaysAfter calls f n
  first : ∀ m < n, calls[m]? = some (.save f) →
    ∃ k, m < k ∧ k < n ∧ calls[k]? = some (.remove f)

/-- The first text came in before the second one. -/
def EntersBefore (calls : List LibraryCall) (f g : String) : Prop :=
  ∃ m n, EntersAt calls f m ∧ EntersAt calls g n ∧ m < n

/-- The library lists the texts that were saved last and are not blank, in the order in which they
came in. -/
structure Lists (l : Library) (calls : List LibraryCall) : Prop where
  mem_iff : ∀ f, f ∈ l.formulas ↔ Text.isBlankText f = false ∧ SavedLast calls f
  order : l.formulas.Pairwise (EntersBefore calls)

/-! ## 2. One more call -/

section

variable {calls : List LibraryCall} {c d : LibraryCall} {f g : String} {n : Nat}

namespace SavingOrderLemmas

theorem getElem?_concat :
    (calls ++ [c])[n]? = some d ↔ calls[n]? = some d ∨ n = calls.length ∧ c = d := by
  rw [List.getElem?_append]
  split
  · next h => exact ⟨.inl, fun hd => hd.resolve_right fun hn => Nat.ne_of_lt h hn.1⟩
  · next h =>
    have hlength : calls.length ≤ n := Nat.le_of_not_lt h
    rw [List.getElem?_eq_none hlength, List.getElem?_singleton]
    by_cases hn : n = calls.length
    · simp [hn]
    · have hsub : n - calls.length ≠ 0 := by omega
      simp [hn, hsub]

theorem lt_length_of_getElem? (h : calls[n]? = some c) : n < calls.length :=
  (List.getElem?_eq_some_iff.1 h).1

theorem staysAfter_concat (hn : n < calls.length) :
    StaysAfter (calls ++ [c]) f n ↔ StaysAfter calls f n ∧ c ≠ .remove f := by
  constructor
  · intro h
    refine ⟨fun m hm hremove => h m hm (getElem?_concat.2 (.inl hremove)), fun hc => ?_⟩
    exact h calls.length hn (getElem?_concat.2 (.inr ⟨rfl, hc⟩))
  · rintro ⟨h, hc⟩ m hm hremove
    obtain hremove | ⟨-, heq⟩ := getElem?_concat.1 hremove
    · exact h m hm hremove
    · exact hc heq

/-- Nothing comes after the last call. -/
theorem staysAfter_length (c : LibraryCall) (f : String) :
    StaysAfter (calls ++ [c]) f calls.length := by
  intro m hm hremove
  have hlt := lt_length_of_getElem? hremove
  rw [List.length_append, List.length_singleton] at hlt
  omega

end SavingOrderLemmas

open SavingOrderLemmas

theorem savedLast_concat :
    SavedLast (calls ++ [c]) f ↔ c = .save f ∨ SavedLast calls f ∧ c ≠ .remove f := by
  constructor
  · rintro ⟨n, hsave, hstays⟩
    obtain hsave | ⟨-, hc⟩ := getElem?_concat.1 hsave
    · obtain ⟨hstays, hc⟩ := (staysAfter_concat (lt_length_of_getElem? hsave)).1 hstays
      exact .inr ⟨⟨n, hsave, hstays⟩, hc⟩
    · exact .inl hc
  · rintro (rfl | ⟨⟨n, hsave, hstays⟩, hc⟩)
    · exact ⟨calls.length, getElem?_concat.2 (.inr ⟨rfl, rfl⟩), staysAfter_length _ f⟩
    · exact ⟨n, getElem?_concat.2 (.inl hsave),
        (staysAfter_concat (lt_length_of_getElem? hsave)).2 ⟨hstays, hc⟩⟩

/-- A text that is not removed stays where it came in. -/
theorem EntersAt.concat (h : EntersAt calls f n) (hc : c ≠ .remove f) :
    EntersAt (calls ++ [c]) f n := by
  have hn := lt_length_of_getElem? h.saves
  refine ⟨getElem?_concat.2 (.inl h.saves), (staysAfter_concat hn).2 ⟨h.stays, hc⟩, ?_⟩
  intro m hm hsave
  obtain hsave | ⟨rfl, -⟩ := getElem?_concat.1 hsave
  · obtain ⟨k, hmk, hkn, hremove⟩ := h.first m hm hsave
    exact ⟨k, hmk, hkn, getElem?_concat.2 (.inl hremove)⟩
  · exact absurd hn (Nat.lt_asymm hm)

/-- A text that is not there comes in with the call that saves it. -/
theorem entersAt_length (h : ¬ SavedLast calls f) :
    EntersAt (calls ++ [.save f]) f calls.length := by
  refine ⟨getElem?_concat.2 (.inr ⟨rfl, rfl⟩), staysAfter_length _ f, fun m hm hsave => ?_⟩
  obtain hsave | ⟨rfl, -⟩ := getElem?_concat.1 hsave
  · -- it was removed after it had been saved, or it would be there
    have hgone : ¬ StaysAfter calls f m := fun hstays => h ⟨m, hsave, hstays⟩
    unfold StaysAfter at hgone
    push Not at hgone
    obtain ⟨k, hmk, hremove⟩ := hgone
    exact ⟨k, hmk, lt_length_of_getElem? hremove, getElem?_concat.2 (.inl hremove)⟩
  · exact absurd hm (Nat.lt_irrefl _)

/-- A text comes in with one call for the last time. -/
theorem EntersAt.unique {m : Nat} (h : EntersAt calls f m) (h' : EntersAt calls f n) : m = n := by
  -- between two saves with which it comes in it is removed, which is after the first of them
  obtain hlt | heq | hlt := Nat.lt_trichotomy m n
  · obtain ⟨k, hk, -, hremove⟩ := h'.first m hlt h.saves
    exact absurd hremove (h.stays k hk)
  · exact heq
  · obtain ⟨k, hk, -, hremove⟩ := h.first n hlt h'.saves
    exact absurd hremove (h'.stays k hk)

/-- A text that was saved last came in with some call. -/
theorem exists_entersAt (h : SavedLast calls f) : ∃ n, EntersAt calls f n := by
  induction calls using List.reverseRecOn with
  | nil =>
    obtain ⟨n, hsave, -⟩ := h
    cases hsave
  | append_singleton calls c ih =>
    by_cases hbefore : SavedLast calls f ∧ c ≠ .remove f
    · obtain ⟨n, hn⟩ := ih hbefore.1
      exact ⟨n, hn.concat hbefore.2⟩
    · obtain rfl := (savedLast_concat.1 h).resolve_right hbefore
      refine ⟨calls.length, entersAt_length fun hlast => hbefore ⟨hlast, ?_⟩⟩
      exact LibraryCall.noConfusion

theorem EntersBefore.concat (h : EntersBefore calls f g) (hf : c ≠ .remove f)
    (hg : c ≠ .remove g) : EntersBefore (calls ++ [c]) f g := by
  obtain ⟨m, n, hm, hn, hlt⟩ := h
  exact ⟨m, n, hm.concat hf, hn.concat hg, hlt⟩

theorem not_entersBefore_self (calls : List LibraryCall) (f : String) :
    ¬ EntersBefore calls f f := by
  rintro ⟨m, n, hm, hn, hlt⟩
  exact Nat.ne_of_lt hlt (hm.unique hn)

/-! ## 3. Libraries -/

variable {l : Library}

/-- A library stays as it is when nothing is removed and nothing new is saved. -/
theorem Lists.concat (h : l.Lists calls) (hremove : ∀ f, c ≠ .remove f)
    (hsave : ∀ f, c = .save f → Text.isBlankText f = true ∨ f ∈ l.formulas) :
    l.Lists (calls ++ [c]) where
  mem_iff f := by
    rw [h.mem_iff, savedLast_concat]
    constructor
    · rintro ⟨hblank, hlast⟩
      exact ⟨hblank, .inr ⟨hlast, hremove f⟩⟩
    · rintro ⟨hblank, hc | ⟨hlast, -⟩⟩
      · obtain hblank' | hmem := hsave f hc
        · rw [hblank] at hblank'
          cases hblank'
        · exact (h.mem_iff f).1 hmem
      · exact ⟨hblank, hlast⟩
  order := h.order.imp fun hfg => hfg.concat (hremove _) (hremove _)

theorem Lists.save (h : l.Lists calls) (f : String) :
    (l.save f).2.Lists (calls ++ [.save f]) := by
  obtain ⟨heq, hold⟩ | ⟨heq, hblank, hnew⟩ := l.save_cases f
  · rw [heq]
    refine h.concat (fun _ => LibraryCall.noConfusion) fun g hg => ?_
    cases hg
    exact hold
  · rw [heq]
    have hgone : ¬ SavedLast calls f := fun hlast => hnew ((h.mem_iff f).2 ⟨hblank, hlast⟩)
    refine ⟨fun g => ?_, ?_⟩
    · rw [List.mem_append, List.mem_singleton, h.mem_iff, savedLast_concat]
      constructor
      · rintro (⟨hg, hlast⟩ | rfl)
        · exact ⟨hg, .inr ⟨hlast, LibraryCall.noConfusion⟩⟩
        · exact ⟨hblank, .inl rfl⟩
      · rintro ⟨hg, hc | ⟨hlast, -⟩⟩
        · cases hc
          exact .inr rfl
        · exact .inl ⟨hg, hlast⟩
    · refine List.pairwise_append.2 ⟨?_, List.pairwise_singleton _ f, fun g hg g' hg' => ?_⟩
      · exact h.order.imp fun hfg =>
          hfg.concat LibraryCall.noConfusion LibraryCall.noConfusion
      · -- what is listed came in with an earlier call
        obtain rfl := List.mem_singleton.1 hg'
        obtain ⟨n, hn⟩ := exists_entersAt ((h.mem_iff g).1 hg).2
        exact ⟨n, calls.length, hn.concat LibraryCall.noConfusion, entersAt_length hgone,
          lt_length_of_getElem? hn.saves⟩

theorem Lists.remove (h : l.Lists calls) (f : String) :
    (l.remove f).2.Lists (calls ++ [.remove f]) := by
  have hother : ∀ g, g ∈ (l.remove f).2.formulas ↔ g ∈ l.formulas ∧ g ≠ f := by
    intro g
    rw [remove_formulas, List.mem_filter, bne_iff_ne]
  have hcall : ∀ g, LibraryCall.remove f ≠ .remove g ↔ g ≠ f := by
    intro g
    rw [ne_eq, LibraryCall.remove.injEq, eq_comm]
  refine ⟨fun g => ?_, ?_⟩
  · rw [hother, h.mem_iff, savedLast_concat, hcall, and_assoc]
    simp only [reduceCtorEq, false_or]
  · refine (h.order.filter _).imp_of_mem fun hg hg' hbefore => ?_
    exact hbefore.concat ((hcall _).2 ((hother _).1 hg).2) ((hcall _).2 ((hother _).1 hg').2)

/-- Every call succeeds, and keeps the library in line with its history. -/
theorem Lists.call (h : l.Lists calls) (c : LibraryCall) :
    ∃ l', l.call c = .ok l' ∧ l'.Lists (calls ++ [c]) := by
  cases c with
  | save f => exact ⟨_, rfl, h.save f⟩
  | remove f => exact ⟨_, rfl, h.remove f⟩
  | contains f =>
    exact ⟨l, rfl, h.concat (fun _ => LibraryCall.noConfusion) fun _ hc => nomatch hc⟩
  | reload =>
    exact ⟨l, ofBytes_stored l,
      h.concat (fun _ => LibraryCall.noConfusion) fun _ hc => nomatch hc⟩

theorem lists_empty : empty.Lists [] where
  mem_iff f := by
    refine iff_of_false List.not_mem_nil fun h => ?_
    obtain ⟨-, n, hsave, -⟩ := h
    cases hsave
  order := List.Pairwise.nil

theorem exists_lists (calls : List LibraryCall) :
    ∃ l, afterCalls calls = .ok l ∧ l.Lists calls := by
  induction calls using List.reverseRecOn with
  | nil => exact ⟨empty, rfl, lists_empty⟩
  | append_singleton calls c ih =>
    obtain ⟨l, hafter, hlists⟩ := ih
    obtain ⟨l', hcall, hlists'⟩ := hlists.call c
    refine ⟨l', ?_, hlists'⟩
    rw [afterCalls, List.foldlM_append]
    show (afterCalls calls >>= fun l => [c].foldlM Library.call l) = _
    rw [hafter]
    show (l.call c >>= pure) = _
    rw [hcall]
    rfl

end

/-! ## 4. Answers -/

theorem save_eq_true_iff (l : Library) (f : String) :
    (l.save f).1 = true ↔ Text.isBlankText f = false ∧ f ∉ l.formulas := by
  obtain ⟨heq, hold⟩ | ⟨heq, hnew⟩ := l.save_cases f
  · rw [heq]
    refine iff_of_false Bool.false_ne_true fun ⟨hblank, hmem⟩ => ?_
    obtain hblank' | hmem' := hold
    · rw [hblank] at hblank'
      cases hblank'
    · exact hmem hmem'
  · rw [heq]
    exact iff_of_true rfl hnew

theorem remove_eq_true_iff (l : Library) (f : String) :
    (l.remove f).1 = true ↔ f ∈ l.formulas := by
  obtain ⟨heq, hmem⟩ | ⟨heq, hmem⟩ := l.remove_cases f
  · rw [heq]
    exact iff_of_false Bool.false_ne_true hmem
  · rw [heq]
    exact iff_of_true rfl hmem

/-- Whatever is asked of a library, it lists each text once that is not blank and was saved last, in
the order in which the texts came in. What is asked next is answered by what it lists. -/
theorem lists_history (calls : List LibraryCall) :
    ∃ l, afterCalls calls = .ok l ∧
      l.formulas.Nodup ∧
      (∀ f, f ∈ l.formulas ↔ Text.isBlankText f = false ∧ SavedLast calls f) ∧
      l.formulas.Pairwise (EntersBefore calls) ∧
      (∀ f, (l.save f).1 = true ↔ Text.isBlankText f = false ∧ f ∉ l.formulas) ∧
      (∀ f, (l.remove f).1 = true ↔ f ∈ l.formulas) ∧
      (∀ f, l.contains f = true ↔ f ∈ l.formulas) ∧
      l.size = l.formulas.length ∧ (l.isEmpty = true ↔ l.formulas = []) := by
  obtain ⟨l, hafter, hlists⟩ := exists_lists calls
  have hnodup : l.formulas.Nodup := by
    refine hlists.order.imp ?_
    rintro f _ hbefore rfl
    exact not_entersBefore_self calls f hbefore
  exact ⟨l, hafter, hnodup, hlists.mem_iff, hlists.order, l.save_eq_true_iff,
    l.remove_eq_true_iff, fun _ => List.contains_iff_mem, rfl, List.isEmpty_iff⟩

/-- A text that is saved again after it was removed comes last. -/
example : afterCalls [.save "a", .save "b", .save "a", .reload, .remove "a", .save " ", .save "a"] =
    .ok ⟨["b", "a"]⟩ := by decide +kernel

end Library

end Formulary

import Formulary.Library.File

/-!
# Libraries over time

A library is changed by saving and removing texts, and it is replaced by beginning anew or by
loading a file. Saving lets nothing in that is blank or already there. Loading takes what the file
lists as it is, so what is repeated or blank in a library comes from the file that was loaded last.

* `LibraryEdit`, `l.edit`, `l.run`: what is done with a library, and the library after it.
* `listed edits`: what the file listed from which the library was loaded last.
* `l.StemsFrom texts`: `l` is what is left of the texts and what was saved after them.

Results.
* What saving and removing do (`save_cases`, `remove_cases`).
* Saving and removing keep what a library stems from (`StemsFrom.save`, `StemsFrom.remove`).
* A library has no text twice and no blank text but those that its file lists (`stemsFrom_run`).
* A file can list both (`load_repetitions`).
-/

namespace Formulary

/-! ## 1. What is done with a library -/

/-- What is done with a library. -/
inductive LibraryEdit
  | new
  | save (formula : String)
  | remove (formula : String)
  /-- The library is written to a file. -/
  | store
  /-- A file is read, which gives `found`. If a library is in it, it takes the place of this one. -/
  | load (found : Except FileError ByteArray)

namespace Library

/-- The library afterwards. -/
def edit (l : Library) : LibraryEdit → Library
  | .new => empty
  | .save formula => (l.save formula).2
  | .remove formula => (l.remove formula).2
  | .store => l
  | .load found =>
    match load found with
    | .ok loaded => loaded
    | .error _ => l

/-- The library after all this, one after the other. -/
def run (l : Library) (edits : List LibraryEdit) : Library :=
  edits.foldl edit l

/-- What the file lists from which the library was loaded last, where it was `texts` before. -/
def listedAfter (texts : List String) : LibraryEdit → List String
  | .load found =>
    match load found with
    | .ok loaded => loaded.formulas
    | .error _ => texts
  | .new => []
  | .save _ | .remove _ | .store => texts

/-- What the file lists from which the library was loaded last. A library that has not been loaded
since it began is as one from an empty list. -/
def listed (edits : List LibraryEdit) : List String :=
  edits.foldl listedAfter []

/-- Some of the texts are left, in their order. What comes after them is neither blank nor repeated.
-/
def StemsFrom (l : Library) (texts : List String) : Prop :=
  ∃ kept added, l.formulas = kept ++ added ∧ kept.Sublist texts ∧ added.Nodup ∧
    ∀ f ∈ added, Text.isBlankText f = false ∧ f ∉ kept

/-! ## 2. One step -/

/-- A text is saved, unless it is blank or already there. -/
theorem save_cases (l : Library) (f : String) :
    (l.save f = (false, l) ∧ (Text.isBlankText f = true ∨ f ∈ l.formulas)) ∨
      (l.save f = (true, ⟨l.formulas ++ [f]⟩) ∧ Text.isBlankText f = false ∧ f ∉ l.formulas) := by
  unfold save contains
  split
  · next h =>
    rw [Bool.or_eq_true, List.contains_iff_mem] at h
    exact .inl ⟨rfl, h⟩
  · next h =>
    rw [Bool.or_eq_true, List.contains_iff_mem, not_or, Bool.not_eq_true] at h
    exact .inr ⟨rfl, h⟩

/-- A text is removed if it is there. -/
theorem remove_cases (l : Library) (f : String) :
    (l.remove f = (false, l) ∧ f ∉ l.formulas) ∨
      (l.remove f = (true, ⟨l.formulas.filter (· != f)⟩) ∧ f ∈ l.formulas) := by
  unfold remove size
  by_cases h : f ∈ l.formulas
  · refine .inr ⟨?_, h⟩
    have hlength : (l.formulas.filter (· != f)).length ≠ l.formulas.length := by
      rw [ne_eq, List.length_filter_eq_length_iff]
      exact fun hall => (bne_iff_ne.1 (hall f h)) rfl
    rw [Prod.mk.injEq, bne_iff_ne]
    exact ⟨hlength, rfl⟩
  · refine .inl ⟨?_, h⟩
    have hself : l.formulas.filter (· != f) = l.formulas :=
      List.filter_eq_self.2 fun g hg => bne_iff_ne.2 fun heq => h (heq ▸ hg)
    rw [hself]
    dsimp only
    rw [bne_self_eq_false]

theorem remove_formulas (l : Library) (f : String) :
    (l.remove f).2.formulas = l.formulas.filter (· != f) := rfl

theorem stemsFrom_formulas (l : Library) : l.StemsFrom l.formulas :=
  ⟨l.formulas, [], (List.append_nil _).symm, List.Sublist.refl _, List.nodup_nil,
    List.forall_mem_nil _⟩

variable {l : Library} {texts : List String}

theorem StemsFrom.save (h : l.StemsFrom texts) (f : String) : (l.save f).2.StemsFrom texts := by
  obtain ⟨kept, added, hl, hkept, hadded, hnew⟩ := h
  obtain ⟨heq, -⟩ | ⟨heq, hblank, hmem⟩ := l.save_cases f
  · rw [heq]
    exact ⟨kept, added, hl, hkept, hadded, hnew⟩
  · rw [hl, List.mem_append, not_or] at hmem
    rw [heq]
    refine ⟨kept, added ++ [f], ?_, hkept, ?_, ?_⟩
    · rw [hl, List.append_assoc]
    · exact List.nodup_append.2 ⟨hadded, List.pairwise_singleton _ f, fun g hg _ hf hgf =>
        hmem.2 (List.mem_singleton.1 hf ▸ hgf ▸ hg)⟩
    · exact List.forall_mem_append.2 ⟨hnew, List.forall_mem_singleton.2 ⟨hblank, hmem.1⟩⟩

theorem StemsFrom.remove (h : l.StemsFrom texts) (f : String) :
    (l.remove f).2.StemsFrom texts := by
  obtain ⟨kept, added, hl, hkept, hadded, hnew⟩ := h
  refine ⟨kept.filter (· != f), added.filter (· != f), ?_, ?_, hadded.filter _, fun g hg => ?_⟩
  · rw [remove_formulas, hl, List.filter_append]
  · exact List.filter_sublist.trans hkept
  · obtain ⟨hblank, hnot⟩ := hnew g (List.mem_filter.1 hg).1
    exact ⟨hblank, fun hmem => hnot (List.mem_filter.1 hmem).1⟩

theorem StemsFrom.edit (h : l.StemsFrom texts) (edit : LibraryEdit) :
    (l.edit edit).StemsFrom (listedAfter texts edit) := by
  cases edit with
  | new => exact stemsFrom_formulas empty
  | save f => exact h.save f
  | remove f => exact h.remove f
  | store => exact h
  | load found =>
    simp only [Library.edit, listedAfter]
    cases load found with
    | ok loaded => exact stemsFrom_formulas loaded
    | error _ => exact h

/-! ## 3. Repeated and blank texts -/

/-- What a library has more than once, the texts have as often. -/
theorem StemsFrom.count_le (h : l.StemsFrom texts) {f : String} (hf : 1 < l.formulas.count f) :
    l.formulas.count f ≤ texts.count f := by
  obtain ⟨kept, added, hl, hkept, hadded, hnew⟩ := h
  rw [hl, List.count_append] at hf ⊢
  by_cases hmem : f ∈ added
  · -- what was saved stands there once
    have hzero : kept.count f = 0 := List.count_eq_zero.2 (hnew f hmem).2
    have hone : added.count f ≤ 1 := List.nodup_iff_count.1 hadded f
    omega
  · rw [List.count_eq_zero.2 hmem, Nat.add_zero]
    exact hkept.count_le f

/-- What is blank in a library is one of the texts. -/
theorem StemsFrom.mem_of_blank (h : l.StemsFrom texts) {f : String} (hf : f ∈ l.formulas)
    (hblank : Text.isBlankText f = true) : f ∈ texts := by
  obtain ⟨kept, added, hl, hkept, -, hnew⟩ := h
  rw [hl] at hf
  obtain hf | hf := List.mem_append.1 hf
  · exact hkept.subset hf
  · rw [(hnew f hf).1] at hblank
    cases hblank

theorem StemsFrom.run (h : l.StemsFrom texts) (edits : List LibraryEdit) :
    (l.run edits).StemsFrom (edits.foldl listedAfter texts) := by
  induction edits generalizing l texts with
  | nil => exact h
  | cons edit edits ih => exact ih (h.edit edit)

/-- Whatever is done, a library is what is left of the file that was loaded last, and after that
texts that are not blank and stand there once. What it has more than once, the file lists as often,
and what is blank in it, the file lists. -/
theorem stemsFrom_run (edits : List LibraryEdit) :
    (empty.run edits).StemsFrom (listed edits) ∧
      (∀ f, 1 < (empty.run edits).formulas.count f →
        (empty.run edits).formulas.count f ≤ (listed edits).count f) ∧
      ∀ f ∈ (empty.run edits).formulas, Text.isBlankText f = true → f ∈ listed edits := by
  have h : (empty.run edits).StemsFrom (listed edits) := (stemsFrom_formulas empty).run edits
  exact ⟨h, fun _ hf => h.count_le hf, fun _ hf hblank => h.mem_of_blank hf hblank⟩

/-- Loading takes over a text that the file lists twice, and a blank one. -/
theorem load_repetitions :
    ¬ (empty.run [.load (.ok "[\"a\",\"a\",\" \"]".toUTF8)]).formulas.Nodup ∧
      ∃ f ∈ (empty.run [.load (.ok "[\"a\",\"a\",\" \"]".toUTF8)]).formulas,
        Text.isBlankText f = true := by
  decide +kernel

end Library

end Formulary

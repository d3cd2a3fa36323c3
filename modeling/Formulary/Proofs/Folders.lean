import Formulary.CommandLine.Folder
import Mathlib.Tactic.SplitIfs

/-!
# Files in a folder

A path that leads to a file leads there whatever the files hold, and a file holds what was written
to it last.

* `Library.inFile content`: the library in a file with this content, or in one that is not there.

Results.
* Where a path leads does not depend on the files (`resolve_congr`).
* Putting a file into a folder changes no other file (`content?_put`).
* Reading and writing by a path that leads to a file are about its content (`read_of_resolve`,
  `write_of_resolve`).
* What was written to a path is read from it (`read_of_write`).
-/

namespace Formulary

namespace CommandLine.Folder

/-! ## 1. Contents -/

/-- A file that was put into the folder has its content, and the others keep theirs. -/
theorem content?_put (folder : Folder) (name other : String) (content : ByteArray) :
    (folder.put name content).content? other =
      if other = name then some content else folder.content? other := by
  unfold content? put
  rw [List.find?_cons]
  by_cases h : other = name
  · subst h
    rw [if_pos rfl, beq_self_eq_true]
    rfl
  · rw [if_neg h, beq_false_of_ne (Ne.symm h), List.find?_filter]
    -- the file that is left out has another name than the one looked for
    have hsame : (fun file : String × ByteArray =>
        decide ((file.1 != name) = true ∧ (file.1 == other) = true)) = (·.1 == other) := by
      funext file
      by_cases hfile : file.1 = other <;> simp [hfile, h]
    rw [hsame]

/-! ## 2. Paths -/

variable {folder after : Folder} {path name : String} {content : ByteArray}

theorem walk_congr (other : Folder) {way : String} {parts : List String} {target : Target}
    (h : folder.walk way parts = .ok target) : other.walk way parts = .ok target := by
  induction parts generalizing way with
  | nil => exact h
  | cons part rest ih =>
    rw [walk] at h ⊢
    split_ifs at h ⊢ with hstay hup hlong hlast
    · exact ih h
    · exact ih h
    · exact h
    · exact h

/-- Where a path leads does not depend on the files. -/
theorem resolve_congr (other : Folder) {target : Target} (h : folder.resolve path = .ok target) :
    other.resolve path = .ok target := by
  rw [resolve] at h ⊢
  split_ifs at h ⊢
  · exact walk_congr other h
  · exact walk_congr other h

theorem read_of_resolve (h : folder.resolve path = .ok (.file name)) :
    folder.read path = (folder.content? name).elim (.error .notFound) .ok := by
  rw [read, h]
  cases hcontent : folder.content? name <;> simp only [bind, Except.bind, hcontent] <;> rfl

theorem write_of_resolve (h : folder.resolve path = .ok (.file name)) (content : ByteArray) :
    folder.write path content = .ok (folder.put name content) := by
  rw [write, h]
  rfl

/-- Only a path that leads to a file can be written to. -/
theorem resolve_of_write (h : folder.write path content = .ok after) :
    ∃ name, folder.resolve path = .ok (.file name) ∧ after = folder.put name content := by
  rw [write] at h
  cases hpath : folder.resolve path with
  | error _ =>
    rw [hpath] at h
    cases h
  | ok target =>
    rw [hpath] at h
    cases target with
    | file name =>
      cases h
      exact ⟨name, rfl, rfl⟩
    | fileAsFolder _ => cases h
    | folder => cases h

/-- What was written to a path is read from it. -/
theorem read_of_write (h : folder.write path content = .ok after) :
    after.read path = .ok content := by
  obtain ⟨name, hpath, rfl⟩ := resolve_of_write h
  rw [read_of_resolve (resolve_congr _ hpath), content?_put, if_pos rfl]
  rfl

end CommandLine.Folder

end Formulary

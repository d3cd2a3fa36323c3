import Formulary.CommandLine.Options
import Formulary.Environment
import Formulary.Evaluation

/-!
# Commands

The first argument names a command, the others belong to it.

* `eval` (or `calc`) evaluates a formula. `--var NAME=VALUE` gives a variable a value,
  `--max-exponent` and `--max-magnitude` set limits, `--raw` asks for all digits.
* `latex` shows the markup of a formula, with `--delimit` between dollar signs.
* `tokens` and `vars` list the tokens and the variables of a formula.
* `saved` works on a library, in the file that `--library` names: `list`, `add`, `remove`, `show`.

* `assignment? text`: a variable and its value, or what is wrong with the text.
* `Command.ofArguments args`: the command that the arguments ask for, or the first mistake in them.
-/

namespace Formulary.CommandLine

/-! ## 1. Commands -/

/-- What to do with a library. -/
inductive SavedAction
  | list
  | add (formula : String)
  | remove (formula : String)
  | showAll
deriving DecidableEq, Repr

/-- What the program is asked to do. -/
inductive Command
  | eval (formula : String) (assignments : List (Char × Float)) (limits : Limits) (raw : Bool)
  | markup (formula : String) (delimited : Bool)
  | tokens (formula : String)
  | names (formula : String)
  | saved (path : String) (action : SavedAction)
deriving DecidableEq

/-! ## 2. Values of options -/

/-- A variable and its value. The name is one letter and the value a number, blanks around each
aside. -/
def assignment? (text : String) : Except String (Char × Float) :=
  match splitAtEquals text.toList with
  | none => .error ("expected NAME=VALUE, got '" ++ text ++ "'")
  | some (name, value) =>
    match Text.trim name with
    | [c] =>
      if c.isAlpha then
        match Number.number? (Text.trim value) with
        | some x => .ok (c, x)
        | none =>
          .error ("invalid number '" ++ String.ofList value ++ "' for " ++ String.singleton c)
      else .error ("variable names are single letters, got '" ++ String.ofList name ++ "'")
    | _ => .error ("variable names are single letters, got '" ++ String.ofList name ++ "'")

/-- A limit. -/
def limit? (text : String) : Except String Float :=
  if text.isEmpty then .error "cannot parse float from empty string"
  else match Number.number? text.toList with
    | some x => .ok x
    | none => .error "invalid float literal"

/-! ## 3. The options of the commands -/

def varOption : OptionForm := ⟨some 'v', "var", some "VARS"⟩
def maxExponentOption : OptionForm := ⟨none, "max-exponent", some "MAX_EXPONENT"⟩
def maxMagnitudeOption : OptionForm := ⟨none, "max-magnitude", some "MAX_MAGNITUDE"⟩
def rawOption : OptionForm := ⟨some 'r', "raw", none⟩
def delimitOption : OptionForm := ⟨some 'd', "delimit", none⟩
def libraryOption : OptionForm := ⟨some 'l', "library", some "LIBRARY"⟩

/-- The file of the library when no other is named. -/
def defaultLibrary : String := "saved_formulas.json"

/-- The values that the items have given so far. -/
structure Settings where
  formula : Option String := none
  assignments : List (Char × Float) := []
  maxExponent : Option Float := none
  maxMagnitude : Option Float := none
  library : Option String := none
  flags : List OptionForm := []

/-- Takes the value of an option that may stand only once. -/
def once {α : Type} (form : OptionForm) (old : Option α) (value : String)
    (accepted : Except String α) : Except UsageError (Option α) :=
  match old, accepted with
  | some _, _ => .error (.repeatedOption form.title)
  | none, .error reason => .error (.invalidValue value form.title reason)
  | none, .ok x => .ok (some x)

/-- Takes one item. -/
def Settings.take (s : Settings) : Item → Except UsageError Settings
  | .positional text =>
    if s.formula.isSome then .error (.unexpectedArgument text)
    else .ok { s with formula := some text }
  | .option form value =>
    if form = varOption then
      match assignment? value with
      | .ok pair => .ok { s with assignments := s.assignments ++ [pair] }
      | .error reason => .error (.invalidValue value form.title reason)
    else if form = maxExponentOption then do
      return { s with maxExponent := ← once form s.maxExponent value (limit? value) }
    else if form = maxMagnitudeOption then do
      return { s with maxMagnitude := ← once form s.maxMagnitude value (limit? value) }
    else if form = libraryOption then do
      let library ← once form s.library value (.ok value)
      if value.isEmpty then throw (.missingValue form.title)
      return { s with library }
    else if form ∈ s.flags then .error (.repeatedOption form.title)
    else .ok { s with flags := form :: s.flags }

/-- The settings of the items, taken in turn, unless there is a mistake. -/
def Settings.ofArguments (forms : List OptionForm) (args : List String) :
    Except UsageError Settings := do
  let (items, error?) := scan forms args
  let s ← items.foldlM Settings.take {}
  match error? with
  | some error => throw error
  | none => return s

/-- The formula, which must have been given. -/
def Settings.requiredFormula (s : Settings) : Except UsageError String :=
  match s.formula with
  | some formula => .ok formula
  | none => .error .missingArguments

/-! ## 4. Reading the arguments -/

/-- The action that the arguments after the options of `saved` ask for. -/
def SavedAction.ofArguments : String → List String → Except UsageError SavedAction
  | "list", args => do
    match (← Settings.ofArguments [] args).formula with
    | none => return list
    | some text => throw (.unexpectedArgument text)
  | "show", args => do
    match (← Settings.ofArguments [] args).formula with
    | none => return showAll
    | some text => throw (.unexpectedArgument text)
  | "add", args => do return add (← (← Settings.ofArguments [] args).requiredFormula)
  | "remove", args => do return remove (← (← Settings.ofArguments [] args).requiredFormula)
  | name, _ => .error (.unknownCommand name)

/-- The arguments before the first positional one, with the values of their options, and the rest.
-/
def splitOptions (forms : List OptionForm) : List String → List String × List String
  | [] => ([], [])
  | argument :: rest =>
    match readArgument forms argument with
    | .items [.positional _] => ([], argument :: rest)
    | .needsValue _ _ =>
      match rest with
      | [] => ([argument], [])
      | value :: rest =>
        let (options, others) := splitOptions forms rest
        (argument :: value :: options, others)
    | _ =>
      let (options, others) := splitOptions forms rest
      (argument :: options, others)

/-- The command that the arguments ask for, or the first mistake in them. -/
def Command.ofArguments : List String → Except UsageError Command
  | [] => .error .missingCommand
  | name :: args =>
    if name = "eval" || name = "calc" then do
      let forms := [varOption, maxExponentOption, maxMagnitudeOption, rawOption]
      let s ← Settings.ofArguments forms args
      let limits : Limits := {}
      return eval (← s.requiredFormula) s.assignments
        { limits with
          maxExponent := s.maxExponent.getD limits.maxExponent
          maxMagnitude := s.maxMagnitude.getD limits.maxMagnitude }
        (rawOption ∈ s.flags)
    else if name = "latex" then do
      let s ← Settings.ofArguments [delimitOption] args
      return markup (← s.requiredFormula) (delimitOption ∈ s.flags)
    else if name = "tokens" then do
      return tokens (← (← Settings.ofArguments [] args).requiredFormula)
    else if name = "vars" then do
      return names (← (← Settings.ofArguments [] args).requiredFormula)
    else if name = "saved" then do
      let (options, others) := splitOptions [libraryOption] args
      let s ← Settings.ofArguments [libraryOption] options
      match others with
      | [] => throw .missingCommand
      | action :: rest =>
        return saved (s.library.getD defaultLibrary) (← SavedAction.ofArguments action rest)
    else .error (.unknownCommand name)

end Formulary.CommandLine

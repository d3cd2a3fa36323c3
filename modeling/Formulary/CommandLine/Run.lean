import Formulary.CommandLine.Command
import Formulary.Display
import Formulary.Expr.Markup
import Formulary.Library.File
import Formulary.Text.Control

/-!
# What a command does

A command prints a report and ends with an exit code. The commands on a library read its file
first and some write it at the end; an `Action` says what to read or write and how to go on after
it.

* `Report`: the exit code and what is printed. Code 0 is success, 1 a failure of the command, 2 a
  mistake in its arguments.
* `c.run`: what the command does.
* `run args`: what the arguments make the program do.
-/

namespace Formulary.CommandLine

/-! ## 1. Reports -/

/-- How a run ends. -/
structure Report where
  code : Nat
  stdout : String
  stderr : String
deriving DecidableEq, Repr

/-- The text, and the end of the line. -/
def line (text : String) : String :=
  text ++ "\n"

/-- The texts, one to a line. -/
def lines (texts : List String) : String :=
  String.join (texts.map line)

/-- Success that prints a text. -/
def Report.success (stdout : String) : Report :=
  ⟨0, stdout, ""⟩

/-- Success that prints a note. -/
def Report.note (text : String) : Report :=
  ⟨0, "", line text⟩

/-- The causes of a failure. Several are numbered from 0. -/
def causeLines : List String → String
  | [] => ""
  | [cause] => lines ["", "Caused by:", "    " ++ cause]
  | causes =>
    lines ("" :: "Caused by:" ::
      causes.zipIdx.map fun (cause, n) => "    " ++ toString n ++ ": " ++ cause)

/-- Failure with a message and its causes, the outermost first. -/
def Report.failure (message : String) (causes : List String) : Report :=
  ⟨1, "", line ("Error: " ++ message) ++ causeLines causes⟩

/-- The report of a mistake in the arguments, which is shown without styles. -/
def Report.usage (error : UsageError) : Report :=
  ⟨2, "", Text.withoutControls error.message⟩

/-! ## 2. Actions -/

/-- What is left to do. -/
inductive Action
  | finish (report : Report)
  | read (path : String) (next : Except FileError ByteArray → Action)
  | write (path text : String) (next : Except FileError Unit → Action)

/-! ## 3. Formulas -/

/-- The kind of the token with its content. -/
def tokenLine : Token → String
  | .literal text => "Number(" ++ Text.quoted text ++ ")"
  | .letter name => "Identifier('" ++ String.singleton name ++ "')"
  | .logarithm function => "Function(" ++ function.tag ++ ")"
  | .operator op => "Operator(" ++ op.tag ++ ")"
  | .openParen => "LeftParen"
  | .closeParen => "RightParen"

/-- The variables of the formula, 0 unless assigned, and all that is assigned. -/
def assigned (formula : String) (assignments : List (Char × Float)) : Environment :=
  assignments.foldl (fun env pair => env.set pair.1 pair.2) (.forFormula formula .empty)

/-- The report of an evaluation. -/
def evalReport (formula : String) (assignments : List (Char × Float)) (limits : Limits)
    (raw : Bool) : Report :=
  match parseFormula formula with
  | .error error => .failure "Failed to parse formula" [error.message]
  | .ok e =>
    match e.evaluate limits (assigned formula assignments) with
    | .error error => .failure "Failed to evaluate formula" [error.message]
    | .ok value => .success (line (if raw then Number.plainText value else display value))

/-- The report of the markup of a formula. -/
def markupReport (formula : String) (delimited : Bool) : Report :=
  match parseFormula formula with
  | .error error => .failure "Failed to parse formula" [error.message]
  | .ok e => .success (line (if delimited then "$" ++ render e ++ "$" else render e))

/-! ## 4. Libraries -/

/-- The report of a library that cannot be loaded or stored. -/
def libraryFailure (message path : String) (error : LibraryError) : Report :=
  .failure (message ++ " '" ++ path ++ "'") [error.message, error.cause]

/-- Writes the library to its file, and reports success or the failure to write. -/
def storeThen (path : String) (library : Library) (report : Report) : Action :=
  .write path library.stored fun
    | .ok () => .finish report
    | .error error => .finish (libraryFailure "Failed to write" path (.file error))

/-- What to do with the library that the file held. -/
def SavedAction.run (path : String) (library : Library) : SavedAction → Action
  | list => .finish (.success (lines library.formulas))
  | showAll =>
    .finish
      { code := 0
        stdout := lines (library.formulas.zipIdx.map fun (formula, n) =>
          toString n ++ "\t" ++ formula ++ "\t$" ++ renderFormula formula ++ "$")
        stderr := if library.isEmpty then line "No saved formulas" else "" }
  | add formula =>
    if Text.isBlankText formula then
      .finish (.failure "Refusing to save an empty formula" [])
    else match library.save formula with
      | (false, _) => .finish (.note ("Already saved: " ++ formula))
      | (true, library) =>
        storeThen path library
          (.note ("Saved " ++ toString library.size ++ " formulas to '" ++ path ++ "'"))
  | remove formula =>
    match library.remove formula with
    | (false, _) => .finish (.failure ("Formula not found: " ++ formula) [])
    | (true, library) => storeThen path library (.success "")

/-- Loads the library of a file, and goes on with it. -/
def withLibrary (path : String) (action : SavedAction) : Action :=
  .read path fun found =>
    match Library.load found with
    | .ok library => action.run path library
    | .error error => .finish (libraryFailure "Failed to load" path error)

/-! ## 5. Commands -/

/-- What the command does. -/
def Command.run : Command → Action
  | eval formula assignments limits raw => .finish (evalReport formula assignments limits raw)
  | markup formula delimited => .finish (markupReport formula delimited)
  | tokens formula => .finish (.success (lines ((tokenize formula).map tokenLine)))
  | names formula => .finish (.success (lines ((variableNames formula).map String.singleton)))
  | saved path action => withLibrary path action

/-- What the arguments make the program do. -/
def run (args : List String) : Action :=
  match Command.ofArguments args with
  | .ok command => command.run
  | .error error => .finish (.usage error)

end Formulary.CommandLine

/-!
# Options among arguments

The arguments of a command are options and positional texts in any order. An option is named by
`--name`, or by `-c` if it has a letter. A flag stands alone. Other options take a value, which
follows in the same argument (`--name=value`, `-cvalue`, `-c=value`) or is the next one. Letters
of flags may share one argument with what follows. After the argument `--` all is positional.

* `UsageError`: a mistake in the arguments, and the text that reports it.
* `OptionForm`: how an option is named and what its value is called.
* `Item`: an option with its value, or a positional text.
* `scan forms args`: the items of the arguments up to the first mistake, and the mistake.
-/

namespace Formulary.CommandLine

/-- A mistake in the arguments. -/
inductive UsageError
  | missingCommand
  | unknownCommand (name : String)
  | unexpectedArgument (argument : String)
  | missingArguments
  | missingValue (option : String)
  | unexpectedValue (value option : String)
  | repeatedOption (option : String)
  /-- A value that the option does not accept, and why. -/
  | invalidValue (value option reason : String)
deriving DecidableEq, Repr

/-- The text in the style of a word that matters. -/
def highlighted (text : String) : String :=
  "\x1b[1m" ++ text ++ "\x1b[0m"

/-- What the mistake is. -/
def UsageError.description : UsageError → String
  | missingCommand => "a subcommand is required but one was not provided"
  | unknownCommand name => "unrecognized subcommand '" ++ highlighted name ++ "'"
  | unexpectedArgument argument => "unexpected argument '" ++ highlighted argument ++ "' found"
  | missingArguments => "the following required arguments were not provided:"
  | missingValue option =>
    "a value is required for '" ++ highlighted option ++ "' but none was supplied"
  | unexpectedValue value option =>
    "unexpected value '" ++ highlighted value ++ "' for '" ++ highlighted option ++
      "' found; no more were expected"
  | repeatedOption option =>
    "the argument '" ++ highlighted option ++ "' cannot be used multiple times"
  | invalidValue value option reason =>
    "invalid value '" ++ highlighted value ++ "' for '" ++ highlighted option ++ "': " ++ reason

/-- The text that reports the mistake, with the control sequences of its styles. Those in a value
that the mistake quotes are part of it, so a sequence that the value leaves open takes in what
follows, up to the next change of style. -/
def UsageError.message (error : UsageError) : String :=
  highlighted "error:" ++ " " ++ error.description ++ "\n\nFor more information, try '" ++
    highlighted "--help" ++ "'.\n"

/-- How an option is named, and what its value is called if it takes one. -/
structure OptionForm where
  letter : Option Char
  name : String
  valueName : Option String
deriving DecidableEq, Repr

/-- The option as messages name it. -/
def OptionForm.title (form : OptionForm) : String :=
  "--" ++ form.name ++
    match form.valueName with
    | some valueName => " <" ++ valueName ++ ">"
    | none => ""

/-- An option with its value, which is empty for a flag; or a positional text. -/
inductive Item
  | option (form : OptionForm) (value : String)
  | positional (text : String)
deriving DecidableEq, Repr

/-- What one argument says. -/
inductive Argument
  | items (items : List Item)
  /-- The last option takes its value from the next argument. -/
  | needsValue (items : List Item) (form : OptionForm)
  | mistake (items : List Item) (error : UsageError)

/-- The argument after one more item. -/
def Argument.after (item : Item) : Argument → Argument
  | items rest => items (item :: rest)
  | needsValue rest form => needsValue (item :: rest) form
  | mistake rest error => mistake (item :: rest) error

/-- The characters before the first `=` and after it. -/
def splitAtEquals (s : List Char) : Option (List Char × List Char) :=
  match s.dropWhile (· != '=') with
  | [] => none
  | _ :: value => some (s.takeWhile (· != '='), value)

/-- What letters after one dash say. -/
def readLetters (forms : List OptionForm) : List Char → Argument
  | [] => .items []
  | c :: rest =>
    match forms.find? (·.letter == some c) with
    | none => .mistake [] (.unexpectedArgument (String.ofList ['-', c]))
    | some form =>
      if form.valueName.isNone then (readLetters forms rest).after (.option form "")
      else match rest with
        | [] => .needsValue [] form
        | '=' :: value | value => .items [.option form (String.ofList value)]

/-- What a name after two dashes says. -/
def readName (forms : List OptionForm) (s : List Char) : Argument :=
  let (name, value?) := match splitAtEquals s with
    | some (name, value) => (String.ofList name, some (String.ofList value))
    | none => (String.ofList s, none)
  match forms.find? (·.name == name), value? with
  | none, _ => .mistake [] (.unexpectedArgument ("--" ++ name))
  | some form, some value =>
    if form.valueName.isNone then .mistake [] (.unexpectedValue value form.title)
    else .items [.option form value]
  | some form, none =>
    if form.valueName.isNone then .items [.option form ""] else .needsValue [] form

/-- What an argument says that is not `--`. -/
def readArgument (forms : List OptionForm) (argument : String) : Argument :=
  match argument.toList with
  | '-' :: '-' :: s => readName forms s
  | '-' :: c :: s => readLetters forms (c :: s)
  | _ => .items [.positional argument]

/-- The mistake of a missing value: the next argument, if there is one, is no value because it
starts with a dash. -/
def missingValue (forms : List OptionForm) (form : OptionForm) (next : Option String) :
    UsageError :=
  match next.map (readArgument forms) with
  | some (.mistake [] (.unexpectedArgument argument)) => .unexpectedArgument argument
  | _ => .missingValue form.title

/-- The argument may be the value of the option before it. -/
def isValue (argument : String) : Bool :=
  match argument.toList with
  | '-' :: _ :: _ => false
  | _ => true

/-- The items of the arguments up to the first mistake, and the mistake. -/
def scan (forms : List OptionForm) : List String → List Item × Option UsageError
  | [] => ([], none)
  | argument :: rest =>
    if argument = "--" then (rest.map .positional, none)
    else match readArgument forms argument with
      | .items items =>
        let (more, error) := scan forms rest
        (items ++ more, error)
      | .mistake items error => (items, some error)
      | .needsValue items form =>
        match rest with
        | [] => (items, some (missingValue forms form none))
        | value :: rest =>
          if isValue value then
            let (more, error) := scan forms rest
            (items ++ .option form value :: more, error)
          else (items, some (missingValue forms form (some value)))

end Formulary.CommandLine

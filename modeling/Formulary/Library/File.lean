import Formulary.Library
import Formulary.Number.Compact
import Formulary.Number.Numeral
import Formulary.Text.Json
import Formulary.Text.Quoted

/-!
# The file of a library

A library is kept in a file as a list of strings of JSON, one to a line. Any list of strings is
read, whatever the blanks between its parts; a file that does not exist is an empty library.

* `l.stored`: the text of the file.
* `readList s`: the strings that a text lists, or the fault for which it is no list of strings.
* `Library.load content`: the library in a file.

What a fault reports of a value of another kind is its kind and, if it is short, the value.
-/

namespace Formulary

open Text (Flaw Fault Read readString jsonString)

/-! ## 1. Writing -/

/-- The text of the file of the library. -/
def Library.stored (l : Library) : String :=
  String.ofList <|
    if l.formulas.isEmpty then "[]".toList
    else "[\n  ".toList ++
      ((l.formulas.map fun f => jsonString f.toList).intersperse ",\n  ".toList).flatten ++
      "\n]".toList

example : (⟨["x", "a\\"]⟩ : Library).stored = "[\n  \"x\",\n  \"a\\\\\"\n]" := by decide

namespace Library.File

/-! ## 2. Values of other kinds -/

/-- The blanks of JSON. -/
def isBlank (c : Char) : Bool :=
  c = ' ' || c = '\n' || c = '\t' || c = '\r'

/-- The text after the blanks at its start, which is not longer than the text. -/
def skipBlanks (s : List Char) : { t : List Char // t.length ≤ s.length } :=
  ⟨s.dropWhile isBlank, (List.dropWhile_suffix _).length_le⟩

/-- The text after the letters of a word. -/
def skipWord : List Char → List Char → Except Fault (List Char)
  | [], s => .ok s
  | _ :: _, [] => .error (.before .endInValue [])
  | c :: word, d :: s => if c = d then skipWord word s else .error (.atNext .expectedWord (d :: s))

/-- The text after the fraction and the power of ten of a number, and whether there are any. -/
def skipFraction (s : List Char) : Except Fault (Bool × List Char) := do
  let (point, s) ← match s with
    | '.' :: t =>
      match t.dropWhile Char.isDigit with
      | [] => if t.isEmpty then throw (.atNext .endInValue []) else pure (true, [])
      | u => if u.length = t.length then throw (.atNext .invalidNumber u) else pure (true, u)
    | s => pure (false, s)
  match s with
  | c :: t =>
    if c = 'e' || c = 'E' then
      let (_, t) := Number.sign t
      match t with
      | [] => throw (.before .endInValue [])
      | d :: u =>
        if d.isDigit then return (true, u.dropWhile Char.isDigit)
        else throw (.atNext .invalidNumber t)
    else return (point, s)
  | [] => return (point, [])

/-- The text after a number without its sign, and whether it is written as a whole number. -/
def skipNumber (s : List Char) : Except Fault (Bool × List Char) :=
  match s with
  | [] => .error (.before .endInValue [])
  | '0' :: c :: t =>
    if c.isDigit then .error (.atNext .invalidNumber (c :: t))
    else (skipFraction (c :: t)).map fun (b, u) => (!b, u)
  | c :: t =>
    if c.isDigit then (skipFraction (t.dropWhile Char.isDigit)).map fun (b, u) => (!b, u)
    else .error (.atNext .invalidNumber s)

/-- A number as a fault reports it, and the text after it. A whole number stands as it is while it
fits in 64 bits. -/
def describeNumber (s : List Char) : Except Fault (String × List Char) := do
  let (negative, digits) := Number.sign s
  let (whole, rest) ← skipNumber digits
  let value := Number.digitsValue (digits.takeWhile Char.isDigit)
  if whole && (if negative then 0 < value && value ≤ 2 ^ 63 else value < 2 ^ 64) then
    let digits := String.ofList (Number.minus negative) ++ toString value
    return ("integer \x60" ++ digits ++ "\x60", rest)
  else
    match (Number.leading? s).bind fun x => x.1.finite? with
    | some x => return ("floating point \x60" ++ String.ofList (Number.compact x) ++ "\x60", rest)
    | none => throw (.before .numberTooLarge rest)

/-- The fault of a value of another kind than the expected one. -/
def wrongKind (expected : String) (s : List Char) : Fault :=
  let fault (found : String) (rest : List Char) : Fault :=
    .before (.wrongKind found expected) rest
  let described : Except Fault (String × List Char) :=
    match s with
    | 'n' :: t => (skipWord "ull".toList t).map fun rest => ("null", rest)
    | 't' :: t => (skipWord "rue".toList t).map fun rest => ("boolean \x60true\x60", rest)
    | 'f' :: t => (skipWord "alse".toList t).map fun rest => ("boolean \x60false\x60", rest)
    | '"' :: t => (readString t).map fun ⟨(text, rest), _⟩ =>
      ("string " ++ Text.quoted (String.ofList text), rest)
    | '[' :: _ => .ok ("sequence", s)
    | '\x7b' :: _ => .ok ("map", s)
    | c :: _ =>
      if c = '-' || c.isDigit then describeNumber s else .error (.atNext .expectedValue s)
    | [] => .error (.atNext .endInValue [])
  match described with
  | .ok (found, rest) => fault found rest
  | .error fault => fault

/-! ## 3. Reading -/

/-- Reads a string, quotes included. -/
def readItem (s : List Char) : Except Fault (Read String s) :=
  match s with
  | '"' :: rest => do
    let ⟨(text, rest), h⟩ ← readString rest
    return ⟨(String.ofList text, rest), Nat.le_succ_of_le h⟩
  | s => .error (wrongKind "a string" s)

/-- Reads the string after a comma. -/
def readNextItem (s : List Char) : Except Fault (Read String s) :=
  match h : (skipBlanks s).val with
  | [] => .error (.atNext .endInValue [])
  | ']' :: rest => .error (.atNext .trailingComma (']' :: rest))
  | start => do
    let ⟨r, hr⟩ ← readItem start
    return ⟨r, Nat.le_trans hr (h ▸ (skipBlanks s).property)⟩

/-- Reads the rest of a list after a string in it and blanks. -/
def readItems (s : List Char) : Except Fault (List String × List Char) :=
  match s with
  | [] => .error (.atNext .endInList [])
  | ']' :: rest => .ok ([], rest)
  | ',' :: rest => do
    let ⟨(item, tail), _⟩ ← readNextItem rest
    let ⟨tail, _⟩ := skipBlanks tail
    let (items, tail) ← readItems tail
    return (item :: items, tail)
  | rest => .error (.atNext .expectedCommaOrClose rest)
termination_by s.length
decreasing_by
  simp only [List.length_cons] at *
  omega

/-- Reads a list of strings after its bracket. -/
def readList (s : List Char) : Except Fault (List String × List Char) :=
  match (skipBlanks s).val with
  | [] => .error (.atNext .endInList [])
  | ']' :: rest => .ok ([], rest)
  | start => do
    let ⟨(item, tail), _⟩ ← readItem start
    let (items, tail) ← readItems (skipBlanks tail).val
    return (item :: items, tail)

/-- The strings that the text lists. -/
def read (s : List Char) : Except Fault (List String) :=
  match (skipBlanks s).val with
  | [] => .error (.atNext .endInValue [])
  | '[' :: rest => do
    let (items, tail) ← readList rest
    match (skipBlanks tail).val with
    | [] => return items
    | tail => throw (.atNext .trailingText tail)
  | rest => .error (wrongKind "a sequence" rest)

end Library.File

/-! ## 4. Files -/

/-- Why a file cannot be read or written. -/
inductive FileError
  | notFound
  /-- A part of the path that has to be a folder is a file. -/
  | notDirectory
  | isDirectory
  | nameTooLong
  | notUtf8
  /-- Another reason, in the words of the operating system. -/
  | other (text : String)
deriving DecidableEq, Repr

/-- The text that reports the error. -/
def FileError.message : FileError → String
  | notFound => "No such file or directory (os error 2)"
  | notDirectory => "Not a directory (os error 20)"
  | isDirectory => "Is a directory (os error 21)"
  | nameTooLong => "File name too long (os error 36)"
  | notUtf8 => "stream did not contain valid UTF-8"
  | other text => text

/-- Why a library cannot be loaded or stored. -/
inductive LibraryError
  | file (error : FileError)
  /-- The file is no list of strings; the report says what is wrong where. -/
  | format (report : String)
deriving DecidableEq, Repr

/-- The text that reports what is behind the error. -/
def LibraryError.cause : LibraryError → String
  | file error => error.message
  | format report => report

/-- The text that reports the error. -/
def LibraryError.message : LibraryError → String
  | file error => "I/O error: " ++ error.message
  | format report => "Invalid library file: " ++ report

/-- The library in a file with this content. -/
def Library.ofBytes (content : ByteArray) : Except LibraryError Library :=
  match String.fromUTF8? content with
  | none => .error (.file .notUtf8)
  | some text =>
    match File.read text.toList with
    | .ok formulas => .ok ⟨formulas⟩
    | .error fault => .error (.format (fault.message text.toList))

/-- The library in a file, where `found` is what reading the file gave. A file that does not exist
is an empty library. -/
def Library.load (found : Except FileError ByteArray) : Except LibraryError Library :=
  match found with
  | .ok content => ofBytes content
  | .error .notFound => .ok empty
  | .error error => .error (.file error)

end Formulary

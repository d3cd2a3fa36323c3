/-!
# Strings and objects of JSON

* `jsonString s`: the characters `s` in quotes. A quote and a backslash follow a backslash, control
  characters have short escapes or are written by four hexadecimal digits, all else stands as it is.
* `jsonObject fields`: an object without blanks.
* `readString s`: the characters that a text denotes up to the closing quote, and the text after it.
  All escapes of JSON are read; a pair of surrogates is one character, and a single one is a fault.

A reader that fails gives a `Fault`: the reason and the place where it stopped.

Result.
* Reading a written string gives it back (`readString_jsonString`).
-/

namespace Formulary.Text

/-! ## 1. Faults -/

/-- What is wrong with a text that is no JSON of the expected form. -/
inductive Flaw
  | endInList
  | endInString
  | endInValue
  | expectedCommaOrClose
  | expectedWord
  | expectedValue
  | invalidEscape
  | invalidNumber
  | numberTooLarge
  | controlCharacter
  | loneSurrogate
  | unfinishedPair
  | trailingComma
  | trailingText
  /-- A value of another kind than the expected one. -/
  | wrongKind (found expected : String)
deriving DecidableEq, Repr

/-- The text that reports the flaw. -/
def Flaw.message : Flaw → String
  | endInList => "EOF while parsing a list"
  | endInString => "EOF while parsing a string"
  | endInValue => "EOF while parsing a value"
  | expectedCommaOrClose => "expected \x60,\x60 or \x60]\x60"
  | expectedWord => "expected ident"
  | expectedValue => "expected value"
  | invalidEscape => "invalid escape"
  | invalidNumber => "invalid number"
  | numberTooLarge => "number out of range"
  | controlCharacter => "control character (\\u0000-\\u001F) found while parsing a string"
  | loneSurrogate => "lone leading surrogate in hex escape"
  | unfinishedPair => "unexpected end of hex escape"
  | trailingComma => "trailing comma"
  | trailingText => "trailing characters"
  | wrongKind found expected => "invalid type: " ++ found ++ ", expected " ++ expected

/-- A flaw, and the place where reading stopped: `beyond` bytes into the rest of the text. -/
structure Fault where
  flaw : Flaw
  rest : List Char
  beyond : Nat
deriving DecidableEq, Repr

/-- The flaw shows before the rest of the text. -/
def Fault.before (flaw : Flaw) (rest : List Char) : Fault :=
  ⟨flaw, rest, 0⟩

/-- The flaw shows in the first byte of the rest of the text. -/
def Fault.atNext (flaw : Flaw) (rest : List Char) : Fault :=
  ⟨flaw, rest, 1⟩

/-- The number of bytes of the text. -/
def byteCount (s : List Char) : Nat :=
  s.foldr (fun c bytes => c.utf8Size + bytes) 0

/-- The line, from 1, and the column in bytes that a number of bytes of the text ends at. -/
def lineAndColumn (s : List Char) (bytes : Nat) : Nat × Nat :=
  let front := (String.ofList s).toUTF8.toList.take bytes
  (front.count 10 + 1, (front.reverse.takeWhile (· != 10)).length)

/-- The text that reports the fault in the text `s`. -/
def Fault.message (s : List Char) (fault : Fault) : String :=
  let (line, column) := lineAndColumn s (byteCount s - byteCount fault.rest + fault.beyond)
  fault.flaw.message ++ " at line " ++ toString line ++ " column " ++ toString column

/-! ## 2. Writing -/

/-- The character as it is written in a string of JSON. -/
def jsonChar (c : Char) : List Char :=
  match c with
  | '"' => ['\\', '"']
  | '\\' => ['\\', '\\']
  | '\x08' => ['\\', 'b']
  | '\x0c' => ['\\', 'f']
  | '\n' => ['\\', 'n']
  | '\r' => ['\\', 'r']
  | '\t' => ['\\', 't']
  | c =>
    if c.toNat < 0x20 then
      ['\\', 'u', '0', '0', Nat.digitChar (c.toNat / 16), Nat.digitChar (c.toNat % 16)]
    else [c]

/-- The characters in quotes. -/
def jsonString (s : List Char) : List Char :=
  '"' :: s.flatMap jsonChar ++ ['"']

/-- An object whose fields have these names and written values. -/
def jsonObject (fields : List (String × List Char)) : List Char :=
  '\x7b' :: List.intercalate [','] (fields.map fun f => jsonString f.1.toList ++ ':' :: f.2) ++
    ['\x7d']

/-! ## 3. Reading -/

/-- The value of a hexadecimal digit of either case. -/
def hexDigit? (c : Char) : Option Nat :=
  if '0' ≤ c && c ≤ '9' then some (c.toNat - '0'.toNat)
  else if 'a' ≤ c && c ≤ 'f' then some (c.toNat - 'a'.toNat + 10)
  else if 'A' ≤ c && c ≤ 'F' then some (c.toNat - 'A'.toNat + 10)
  else none

/-- The value of four hexadecimal digits. -/
def hexDigits? (a b c d : Char) : Option Nat := do
  return (((← hexDigit? a) * 16 + (← hexDigit? b)) * 16 + (← hexDigit? c)) * 16 + (← hexDigit? d)

/-- What is read and the text after it, which is not longer than the text before it. -/
abbrev Read (α : Type) (s : List Char) := { r : α × List Char // r.2.length ≤ s.length }

/-- Reads four hexadecimal digits. -/
def readHex (s : List Char) : Except Fault (Read Nat s) :=
  match s with
  | a :: b :: c :: d :: rest =>
    match hexDigits? a b c d with
    | some n => .ok ⟨(n, rest), by simp only [List.length_cons]; omega⟩
    | none => .error ⟨.invalidEscape, s, 4⟩
  | s =>
    if byteCount s < 4 then .error (.before .endInString []) else .error ⟨.invalidEscape, s, 4⟩

/-- Reads the digits after `\u`: one character, or the first half of a pair and the escape of the
second half. -/
def readCodePoint (s : List Char) : Except Fault (Read Char s) := do
  let ⟨(n, rest), h⟩ ← readHex s
  if 0xDC00 ≤ n && n ≤ 0xDFFF then throw (.before .loneSurrogate rest)
  else if 0xD800 ≤ n && n ≤ 0xDBFF then
    match rest, h with
    | '\\' :: 'u' :: tail, h =>
      let ⟨(m, rest), h'⟩ ← readHex tail
      if 0xDC00 ≤ m && m ≤ 0xDFFF then
        return ⟨(Char.ofNat (0x10000 + (n - 0xD800) * 0x400 + (m - 0xDC00)), rest), by
          simp only [List.length_cons] at h h' ⊢; omega⟩
      else throw (.before .loneSurrogate rest)
    | '\\' :: [], _ | [], _ => throw (.before .endInString [])
    | '\\' :: rest, _ | rest, _ => throw (.atNext .unfinishedPair rest)
  else return ⟨(Char.ofNat n, rest), h⟩

/-- The character of an escape that is one letter or sign. -/
def shortEscape? : Char → Option Char
  | '"' => some '"'
  | '\\' => some '\\'
  | '/' => some '/'
  | 'b' => some '\x08'
  | 'f' => some '\x0c'
  | 'n' => some '\n'
  | 'r' => some '\r'
  | 't' => some '\t'
  | _ => none

/-- Reads what follows a backslash. -/
def readEscape (s : List Char) : Except Fault (Read Char s) :=
  match s with
  | [] => .error (.before .endInString [])
  | 'u' :: rest => do
    let ⟨r, h⟩ ← readCodePoint rest
    return ⟨r, Nat.le_succ_of_le h⟩
  | c :: rest =>
    match shortEscape? c with
    | some d => .ok ⟨(d, rest), Nat.le_succ _⟩
    | none => .error (.atNext .invalidEscape s)

/-- Reads a string up to its closing quote; `front` holds the characters before, last one first. -/
def readStringFrom (front : List Char) (s : List Char) : Except Fault (Read (List Char) s) :=
  match s with
  | [] => .error (.before .endInString [])
  | '"' :: rest => .ok ⟨(front.reverse, rest), Nat.le_succ _⟩
  | '\\' :: rest => do
    let ⟨(c, tail), h⟩ ← readEscape rest
    let ⟨r, h'⟩ ← readStringFrom (c :: front) tail
    return ⟨r, by simp only [List.length_cons] at *; omega⟩
  | c :: rest =>
    if c.toNat < 0x20 then .error (.before .controlCharacter rest)
    else do
      let ⟨r, h⟩ ← readStringFrom (c :: front) rest
      return ⟨r, Nat.le_succ_of_le h⟩
termination_by s.length
decreasing_by
  all_goals simp only [List.length_cons] at *
  all_goals omega

/-- The characters that the text denotes up to the closing quote, and the text after it. -/
def readString (s : List Char) : Except Fault (Read (List Char) s) :=
  readStringFrom [] s

/-! ## 4. Reading what was written -/

theorem hexDigits?_digitChar :
    ∀ n < 32, hexDigits? '0' '0' (Nat.digitChar (n / 16)) (Nat.digitChar (n % 16)) = some n := by
  decide

theorem readEscape_control {c : Char} (hc : c.toNat < 0x20) (t : List Char) :
    (readEscape ('u' :: '0' :: '0' :: Nat.digitChar (c.toNat / 16) ::
      Nat.digitChar (c.toNat % 16) :: t)).map (·.val) = .ok (c, t) := by
  have hh := hexDigits?_digitChar c.toNat hc
  have h1 : ¬ (0xDC00 ≤ c.toNat ∧ c.toNat ≤ 0xDFFF) := by omega
  have h2 : ¬ (0xD800 ≤ c.toNat ∧ c.toNat ≤ 0xDBFF) := by omega
  simp [readEscape, readCodePoint, readHex, hh, h1, h2, bind, Except.bind, Except.map, pure,
    Except.pure, Char.ofNat_toNat]

/-- A string goes on after an escape with the character that the escape denotes. -/
theorem readStringFrom_backslash {front s t : List Char} {c : Char}
    (h : (readEscape s).map (·.val) = .ok (c, t)) :
    (readStringFrom front ('\\' :: s)).map (·.val) =
      (readStringFrom (c :: front) t).map (·.val) := by
  rw [readStringFrom]
  cases he : readEscape s with
  | error e => rw [he] at h; cases h
  | ok r =>
    obtain ⟨⟨d, u⟩, hr⟩ := r
    rw [he] at h
    obtain ⟨rfl, rfl⟩ := Prod.mk.inj (Except.ok.inj h)
    cases hs : readStringFrom (d :: front) u <;>
      simp [bind, Except.bind, Except.map, hs, pure, Except.pure]

theorem readEscape_short {c d : Char} (hd : shortEscape? c = some d) (hu : c ≠ 'u')
    (t : List Char) : (readEscape (c :: t)).map (·.val) = .ok (d, t) := by
  simp [readEscape, hd, Except.map]

theorem readStringFrom_jsonChar (c : Char) (front t : List Char) :
    (readStringFrom front (jsonChar c ++ t)).map (·.val) =
      (readStringFrom (c :: front) t).map (·.val) := by
  fun_cases jsonChar c
  case case8 hc => exact readStringFrom_backslash (readEscape_control hc t)
  case case9 hq hb _ _ _ _ _ hc =>
    rw [List.singleton_append, readStringFrom]
    · cases readStringFrom (c :: front) t <;>
        simp [bind, Except.bind, Except.map, hc, pure, Except.pure]
    · exact hq
    · exact hb
  all_goals exact readStringFrom_backslash (readEscape_short rfl (by decide) t)

theorem readStringFrom_flatMap (s front t : List Char) :
    (readStringFrom front (s.flatMap jsonChar ++ '"' :: t)).map (·.val) =
      .ok (front.reverse ++ s, t) := by
  induction s generalizing front with
  | nil =>
    rw [List.flatMap_nil, List.nil_append, readStringFrom]
    simp [Except.map]
  | cons c s ih =>
    rw [List.flatMap_cons, List.append_assoc, readStringFrom_jsonChar, ih]
    simp

/-- Reading a written string gives it back. -/
theorem readString_jsonString (s t : List Char) :
    (readString (s.flatMap jsonChar ++ '"' :: t)).map (·.val) = .ok (s, t) := by
  simpa [readString] using readStringFrom_flatMap s [] t

end Formulary.Text

/-!
# Texts without control sequences

A text for a terminal may hold control characters and control sequences, which set colours and
titles. Where there is no terminal they are left out. A sequence begins with the escape character,
and its next characters say where it ends. Blanks that move to another line or column are kept, also
those inside a sequence; such a blank interrupts the sequence, and the text after it is kept up to
the next control character, where the sequence goes on.

* `isShown c`: outside a sequence `c` is kept.
* `Sequence`: how much of a control sequence has been read.
* `withoutControls s`: `s` without control characters and control sequences.

Results.
* What is kept are characters that are shown (`isShown_of_mem_keptFrom`).
* A text of such characters is kept as it is (`keptFrom_eq_self`).
-/

namespace Formulary.Text

/-! ## 1. Characters -/

/-- The character is a tab, a line end, a form feed or a carriage return. -/
def isLayout (c : Char) : Bool :=
  c == '\t' || c == '\n' || c == '\x0c' || c == '\x0d'

/-- Outside a sequence the character is kept: it is no control character of ASCII, or one that only
sets the layout. -/
def isShown (c : Char) : Bool :=
  isLayout c || (' ' ≤ c && c != '\x7f')

/-- The character is not in ASCII. -/
def isWide (c : Char) : Bool :=
  '\x7f' < c

/-- The encoding of the character has the byte that ends a string. -/
def endsString (c : Char) : Bool :=
  isWide c && (String.utf8EncodeChar c).contains 0x9c

/-! ## 2. Sequences -/

/-- How much of a control sequence has been read. -/
inductive Sequence
  /-- There is none. -/
  | outside
  /-- The escape character. -/
  | escape
  /-- The escape character and something that is not yet the end. -/
  | escapeRest
  /-- The beginning of a sequence with parameters. -/
  | parameters
  /-- The beginning of a string for a device. -/
  | deviceStart
  /-- The beginning of a string for a device, up to some of its parameters. -/
  | deviceParameters
  /-- The beginning of a string for a device, after its parameters. -/
  | deviceRest
  /-- The beginning of a string that is a command to the system. -/
  | command
  /-- A string of another kind, whose content has begun. -/
  | string
deriving DecidableEq, Repr

namespace Sequence

/-- After the escape character: the kind of the sequence. -/
def ofEscaped (c : Char) : Sequence :=
  match c with
  | '[' => parameters
  | ']' => command
  | 'P' => deviceStart
  | 'X' | '^' | '_' => string
  | c =>
    if ' ' ≤ c && c ≤ '/' then escapeRest
    else if '0' ≤ c && c ≤ '~' then outside
    else escape

/-- The sequence after one more character. The escape character begins a new one, and the characters
for cancelling and substitution end it. -/
def next (s : Sequence) (c : Char) : Sequence :=
  if c = '\x1b' then escape
  else if c = '\x18' || c = '\x1a' then outside
  else match s with
    | outside => outside
    | escape => ofEscaped c
    | escapeRest => if '0' ≤ c && c ≤ '~' then outside else escapeRest
    | parameters => if '@' ≤ c && c ≤ '~' then outside else parameters
    | deviceStart =>
      if ' ' ≤ c && c ≤ '/' then deviceRest
      else if '0' ≤ c && c ≤ '?' then deviceParameters
      else if '@' ≤ c && c ≤ '~' then string
      else deviceStart
    | deviceParameters =>
      if ' ' ≤ c && c ≤ '/' then deviceRest
      else if '<' ≤ c && c ≤ '~' then string
      else deviceParameters
    | deviceRest => if '0' ≤ c && c ≤ '~' then string else deviceRest
    | command => if c = '\x07' then outside else command
    | string => if endsString c then outside else string

/-- The character is kept though it stands inside the sequence. -/
def lets (s : Sequence) (c : Char) : Bool :=
  (s == escape || s == escapeRest || s == parameters) && isLayout c

end Sequence

/-! ## 3. Texts -/

/-- What is kept of the text after the sequence `s`, where `interrupted` tells that kept text has
interrupted the sequence. A character that is not in ASCII ends an interrupted sequence. -/
def keptFrom (s : Sequence) (interrupted : Bool) : List Char → List Char
  | [] => []
  | c :: rest =>
    if (interrupted || s == .outside) && isShown c then
      c :: keptFrom (if isWide c then .outside else s) interrupted rest
    else if s.lets c then c :: keptFrom s true rest
    else keptFrom (s.next c) false rest

/-- The text without control characters and control sequences. -/
def withoutControls (s : String) : String :=
  String.ofList (keptFrom .outside false s.toList)

theorem isShown_of_mem_keptFrom (s : Sequence) (interrupted : Bool) (text : List Char) :
    ∀ c ∈ keptFrom s interrupted text, isShown c = true := by
  induction text generalizing s interrupted with
  | nil => simp [keptFrom]
  | cons c rest ih =>
    rw [keptFrom]
    split
    · rename_i h
      rw [Bool.and_eq_true] at h
      exact List.forall_mem_cons.2 ⟨h.2, ih _ _⟩
    · split
      · rename_i h
        rw [Sequence.lets, Bool.and_eq_true] at h
        exact List.forall_mem_cons.2 ⟨by rw [isShown, h.2, Bool.true_or], ih _ _⟩
      · exact ih _ _

theorem keptFrom_eq_self (text : List Char) (h : ∀ c ∈ text, isShown c = true) :
    keptFrom .outside false text = text := by
  induction text with
  | nil => rfl
  | cons c rest ih =>
    obtain ⟨hc, hrest⟩ := List.forall_mem_cons.1 h
    rw [keptFrom, if_pos (by rw [hc]; rfl), ite_self, ih hrest]

example : withoutControls "\x1b[1mx\x1b[0m = \x07\x1b]0;t\x07é" = "x = é" := by decide +kernel

example : withoutControls "a\x1b[\nb\x01cd" = "a\nbd" := by decide +kernel

end Formulary.Text

import Formulary.Proofs.Folders
import Mathlib.Control.Monad.Basic

/-!
# Stored libraries

A stored library is read back as it was, whatever its texts hold. The file has one string to a line,
and no character of a text ends its string early.

* `File.following items`: the lines of the strings after the first.

Results.
* A string is read back from its line, and so are the strings after it (`readItem_jsonString`,
  `readItems_following`).
* The text of the file is read as the list that it was written for (`read_stored`).
* A library comes back from its file. So libraries with the same file are equal, and storing what
  was loaded once does not change it any more (`load_written`).
-/

namespace Formulary.Library

open CommandLine (Folder)
open Text (Fault Read jsonChar jsonString readString readString_jsonString)

namespace File

/-! ## 1. The text of a file -/

/-- The lines of the strings after the first, with the ends of the lines before them. -/
def following (items : List String) : List Char :=
  items.flatMap fun item => ",\n  ".toList ++ jsonString item.toList

theorem flatten_intersperse (item : String) (items : List String) :
    (((item :: items).map fun f => jsonString f.toList).intersperse ",\n  ".toList).flatten =
      jsonString item.toList ++ following items := by
  induction items generalizing item with
  | nil => rfl
  | cons next items ih =>
    have hnext := ih next
    rw [List.map_cons] at hnext
    rw [List.map_cons, List.map_cons, List.intersperse_cons_cons, List.flatten_cons,
      List.flatten_cons, hnext, following, following, List.flatMap_cons, List.append_assoc]

/-- The text of a file with a string in it. -/
theorem toList_stored_cons (item : String) (items : List String) :
    (Library.mk (item :: items)).stored.toList =
      "[\n  ".toList ++ (jsonString item.toList ++ (following items ++ "\n]".toList)) := by
  rw [stored, String.toList_ofList, if_neg (by simp), flatten_intersperse]
  simp only [List.append_assoc]

/-! ## 2. Reading the lines -/

/-- A reader that succeeds gives what is read, with a proof about the text after it. -/
theorem eq_ok_of_map_val {α : Type} {s : List Char} {x : Except Fault (Read α s)}
    {r : α × List Char} (h : x.map (·.val) = .ok r) : ∃ hlength, x = .ok ⟨r, hlength⟩ := by
  cases x with
  | error _ => cases h
  | ok y =>
    cases h
    exact ⟨y.property, rfl⟩

/-- A string is read back, whatever comes after it. -/
theorem readItem_jsonString (item : String) (rest : List Char) :
    (readItem (jsonString item.toList ++ rest)).map (·.val) = .ok (item, rest) := by
  have hquoted : jsonString item.toList ++ rest =
      '"' :: (item.toList.flatMap jsonChar ++ '"' :: rest) := by
    simp [jsonString]
  obtain ⟨_, hread⟩ := eq_ok_of_map_val (readString_jsonString item.toList rest)
  rw [hquoted, readItem, hread]
  show Except.ok (String.ofList item.toList, rest) = _
  rw [String.ofList_toList]

variable {s start tail : List Char} {item : String}

/-- Where a list begins with a string, the others are read after the blanks that follow it. -/
theorem readList_of_item (h : (skipBlanks s).val = '"' :: start)
    (hitem : (readItem ('"' :: start)).map (·.val) = .ok (item, tail)) :
    readList s = (readItems (skipBlanks tail).val).map fun r => (item :: r.1, r.2) := by
  obtain ⟨_, hread⟩ := eq_ok_of_map_val hitem
  rw [readList, h]
  show (readItem ('"' :: start) >>= _) = _
  rw [hread]
  rfl

/-- The string after a comma is read from where it begins. -/
theorem readNextItem_of_item (h : (skipBlanks s).val = '"' :: start)
    (hitem : (readItem ('"' :: start)).map (·.val) = .ok (item, tail)) :
    (readNextItem s).map (·.val) = .ok (item, tail) := by
  rw [← h] at hitem
  obtain ⟨_, hread⟩ := eq_ok_of_map_val hitem
  rw [readNextItem]
  split
  · next heq =>
    rw [h] at heq
    cases heq
  · next heq =>
    rw [h] at heq
    cases heq
  · rw [hread]
    rfl

/-- After a comma and a string, the others are read after the blanks that follow it. -/
theorem readItems_comma (hnext : (readNextItem s).map (·.val) = .ok (item, tail)) :
    readItems (',' :: s) =
      (readItems (skipBlanks tail).val).map fun r => (item :: r.1, r.2) := by
  obtain ⟨_, hread⟩ := eq_ok_of_map_val hnext
  rw [readItems, hread]
  rfl

/-- The strings after the first are read back, up to the bracket that closes the list. -/
theorem readItems_following (items : List String) (rest : List Char) :
    readItems (skipBlanks (following items ++ "\n]".toList ++ rest)).val = .ok (items, rest) := by
  induction items with
  | nil =>
    show readItems (']' :: rest) = _
    rw [readItems]
  | cons item items ih =>
    have hline : following (item :: items) ++ "\n]".toList ++ rest = ',' :: ("\n  ".toList ++
        (jsonString item.toList ++ (following items ++ "\n]".toList ++ rest))) := by
      simp [following]
    have hnext : (readNextItem ("\n  ".toList ++
        (jsonString item.toList ++ (following items ++ "\n]".toList ++ rest)))).map (·.val) =
          .ok (item, following items ++ "\n]".toList ++ rest) :=
      readNextItem_of_item rfl (readItem_jsonString item _)
    rw [hline]
    show readItems (',' :: _) = _
    rw [readItems_comma hnext, ih]
    rfl

/-- What is written for a list of strings is read as this list. -/
theorem read_stored (formulas : List String) :
    read (Library.mk formulas).stored.toList = .ok formulas := by
  cases formulas with
  | nil => rfl
  | cons item items =>
    have hlines := readItems_following items []
    rw [List.append_nil] at hlines
    have hlist : readList ("\n  ".toList ++
        (jsonString item.toList ++ (following items ++ "\n]".toList))) =
          .ok (item :: items, []) := by
      rw [readList_of_item rfl (readItem_jsonString item _), hlines]
      rfl
    rw [toList_stored_cons]
    show read ('[' :: ("\n  ".toList ++ _)) = _
    rw [read]
    show (readList _ >>= _) = _
    rw [hlist]
    rfl

end File

/-! ## 3. Files -/

/-- A library comes back from the text of its file. -/
theorem ofBytes_stored (l : Library) : ofBytes l.stored.toUTF8 = .ok l := by
  have htext : String.fromUTF8? l.stored.toUTF8 = some l.stored := dif_pos l.stored.isValidUTF8
  rw [ofBytes, htext]
  dsimp only
  rw [File.read_stored]

/-- The text of the file determines the library. -/
theorem stored_injective : Function.Injective stored := by
  intro l l' h
  have hl := ofBytes_stored l
  rw [h, ofBytes_stored] at hl
  exact (Except.ok.inj hl).symm

/-- Whatever texts a library holds, it comes back from the file that it was written to. So libraries
with the same file are equal. What was loaded from any file is stored and loaded without a change,
and then has the same file again. -/
theorem load_written :
    (∀ (l : Library) (folder after : Folder) (path : String),
      folder.write path l.stored.toUTF8 = .ok after → load (after.read path) = .ok l) ∧
    Function.Injective stored ∧
    ∀ (content : ByteArray) (l : Library), load (.ok content) = .ok l →
      ∃ again, load (.ok l.stored.toUTF8) = .ok again ∧ again = l ∧ again.stored = l.stored := by
  refine ⟨fun l folder after path h => ?_, stored_injective, fun _ l _ => ?_⟩
  · rw [Folder.read_of_write h]
    exact ofBytes_stored l
  · exact ⟨l, ofBytes_stored l, rfl, rfl⟩

namespace StorageLemmas

/-- Texts with quotes, control characters and a character beyond 16 bits. -/
def escapedTexts : Library :=
  ⟨["\"\\", "\x00\n\x7f", "", "😀"]⟩

/-- A file that lists them with other blanks and other escapes. -/
def escapedFile : String :=
  "[\"\\u0022\\\\\",\t\"\\u0000\\n\x7f\" ,\"\", \"\\uD83D\\ude00\"]\n"

end StorageLemmas

open StorageLemmas

/-- What has to be escaped comes back, and the other way to write it is read as the same. -/
theorem load_written_escapes :
    Folder.empty.write "./a.json" escapedTexts.stored.toUTF8 =
        .ok (Folder.empty.put "a.json" escapedTexts.stored.toUTF8) ∧
      load ((Folder.empty.put "a.json" escapedTexts.stored.toUTF8).read "./a.json") =
        .ok escapedTexts ∧
      load (.ok escapedFile.toUTF8) = .ok escapedTexts ∧
      ∃ again, load (.ok escapedTexts.stored.toUTF8) = .ok again ∧ again = escapedTexts ∧
        again.stored = escapedTexts.stored := by
  have hwrite : Folder.empty.write "./a.json" escapedTexts.stored.toUTF8 =
      .ok (Folder.empty.put "a.json" escapedTexts.stored.toUTF8) :=
    Folder.write_of_resolve rfl _
  have hload : load (.ok escapedFile.toUTF8) = .ok escapedTexts := by
    decide +kernel
  exact ⟨hwrite, load_written.1 _ _ _ _ hwrite, hload, load_written.2.2 _ _ hload⟩

end Formulary.Library

import SchemaRecords.Text.Hex

/-!
# Ranges of characters

A class of characters as the ranges of their numbers.

* `Ranges` -- ranges in ascending order, both ends included;
* `Ranges.ofText` -- ranges from words: two hexadecimal numbers with a hyphen between them, or one
  number for a range of one character;
* `Ranges.has` -- whether a character lies in one of them.
-/

namespace SchemaRecords.Text

/-- Ranges of character numbers, ascending. -/
abbrev Ranges := List (Nat × Nat)

namespace Ranges

/-- The number that hexadecimal digits write, zero if there are none. -/
def number (s : List Char) : Nat := (ofHex? s).getD 0

/-- The range that a word writes. -/
def ofWord (word : List Char) : Nat × Nat :=
  match word.splitOn '-' with
  | [first, last] => (number first, number last)
  | _ => (number word, number word)

/-- The words of a text between blanks and line feeds. -/
def wordsOf (text : String) : List (List Char) :=
  ((text.toList.splitOn '\n').flatMap (·.splitOn ' ')).filter (!·.isEmpty)

/-- The ranges that the words of a text write. -/
def ofText (text : String) : Ranges := (wordsOf text).map ofWord

/-- Whether a character lies in a range; they ascend, so the search ends at the first one that does
    not lie below the character. -/
def has (ranges : Ranges) (c : Char) : Bool :=
  match ranges.find? (fun r => c.toNat ≤ r.2) with
  | some r => r.1 ≤ c.toNat
  | none => false

end Ranges

end SchemaRecords.Text

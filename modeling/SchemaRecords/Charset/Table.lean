import SchemaRecords.Text.Ranges

/-!
# Tables of characters

* `Table` -- the characters of codes, in lines of codes that follow each other;
* `Table.ofText` -- a table from lines of a hexadecimal number, the code of the first character,
  and the characters; a full stop stands for a code without one;
* `Table.get?` -- the character of a code;
* `Table.lacking` -- the characters of a block that a table lacks;
* `Spans` -- codes whose characters follow each other as well, from words of the first code, the
  last code and the first character;
* `Pairs` -- codes of two characters.
-/

namespace SchemaRecords.Charset

open Text

/-! ## 1. Lines -/

/-- Characters of codes that follow each other. -/
structure Line where
  first : Nat
  characters : Array Char
  deriving DecidableEq, Repr

/-- Characters of codes. -/
abbrev Table := List Line

namespace Table

/-- The line that a text writes. -/
def lineOf (s : List Char) : Line :=
  ⟨Ranges.number (s.takeWhile (· != ' ')), (s.drop ((s.takeWhile (· != ' ')).length + 1)).toArray⟩

/-- The table that the lines of a text write. -/
def ofText (text : String) : Table := (text.toList.splitOn '\n').map lineOf

/-- The character of a code. -/
def get? (table : Table) (code : Nat) : Option Char := do
  let line ← table.find? fun line => line.first ≤ code && code - line.first < line.characters.size
  let c ← line.characters[code - line.first]?
  if c == '.' then none else some c

/-- The characters of a table. -/
def characters (table : Table) : List Char :=
  table.flatMap fun line => line.characters.toList.filter (· != '.')

/-- The characters of a block, from a first one on, that are not in a table, in their order. -/
def lacking (table : Table) (first size : Nat) : Array Char :=
  let marks := table.characters.foldl
    (fun marks c => if first ≤ c.toNat then marks.setIfInBounds (c.toNat - first) true else marks)
    (Array.replicate size false)
  (marks.toList.zipIdx.filterMap fun (mark, i) =>
    if mark then none else some (Char.ofNat (first + i))).toArray

end Table

/-! ## 2. Spans -/

/-- Codes from a first to a last one, and the number of the first character. -/
structure Span where
  first : Nat
  last : Nat
  character : Nat
  deriving DecidableEq, Repr

/-- Codes whose characters follow each other. -/
abbrev Spans := List Span

namespace Spans

/-- The span that a word writes: the codes with a hyphen between them, or one code, a colon, and the
    first character. -/
def ofWord (word : List Char) : Span :=
  let codes := Ranges.ofWord (word.takeWhile (· != ':'))
  ⟨codes.1, codes.2, Ranges.number ((word.dropWhile (· != ':')).drop 1)⟩

/-- The spans that the words of a text write. -/
def ofText (text : String) : Spans := (Ranges.wordsOf text).map ofWord

/-- The character of a code. -/
def get? (spans : Spans) (code : Nat) : Option Char :=
  (spans.find? fun s => s.first ≤ code && code ≤ s.last).map fun s =>
    Char.ofNat (s.character + (code - s.first))

end Spans

/-! ## 3. Pairs -/

/-- Codes of two characters. -/
abbrev Pairs := List (Nat × List Char)

namespace Pairs

/-- The pair that a word writes: the code, a colon, and the characters with a plus sign between
    them. -/
def ofWord (word : List Char) : Nat × List Char :=
  let characters := ((word.dropWhile (· != ':')).drop 1).splitOn '+'
  (Ranges.number (word.takeWhile (· != ':')), characters.map fun s => Char.ofNat (Ranges.number s))

/-- The pairs that the words of a text write. -/
def ofText (text : String) : Pairs := (Ranges.wordsOf text).map ofWord

/-- The characters of a code. -/
def get? (pairs : Pairs) (code : Nat) : Option (List Char) := pairs.lookup code

end Pairs

end SchemaRecords.Charset

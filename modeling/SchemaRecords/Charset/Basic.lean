import SchemaRecords.Charset.Fault
import SchemaRecords.Charset.Reading
import SchemaRecords.Text.Ranges

/-!
# Character sets

* `Charset` -- the names of a set and how it reads octets, with replacement characters or without;
* `Charset.single` -- a set of single octets, from the runs of its characters;
* `Charset.isNamed` -- whether a set has a name.
-/

namespace SchemaRecords

/-- A set of characters: its own name, other names, the pieces of octets in it, and the text of
    octets that are not malformed, which most sets tell from the pieces. -/
structure Charset where
  name : String
  aliases : String
  decode : List UInt8 → Except Charset.Fault (List Charset.Piece)
  faithful? : List UInt8 → Option (List Char) := fun bytes =>
    (decode bytes).toOption.bind Charset.whole?

namespace Charset

/-! ## 1. Names -/

/-- Whether a set has a name. A full stop in it stands for a low line, but not in the own name. -/
def isNamed (name : List Char) (charset : Charset) : Bool :=
  let aliases := Text.Ranges.wordsOf charset.aliases
  charset.name.toList == name || aliases.contains name ||
    aliases.contains (name.map fun c => if c == '.' then '_' else c)

/-- A set by its names and the pieces of octets, which are text always. -/
def total (name aliases : String) (decode : List UInt8 → List Piece) : Charset :=
  { name, aliases, decode := fun bytes => .ok (decode bytes) }

/-! ## 2. Single octets -/

/-- The pieces that a run stands for; the replacement character stands for none. -/
def piecesOf (run : Nat × Nat) : List Piece :=
  (List.range (run.2 + 1 - run.1)).map fun i =>
    let c := Char.ofNat (run.1 + i)
    if c == Text.replacement then none else some c

/-- The pieces of the octets from zero on, from the words of their runs. -/
def cells (runs : String) : Array Piece := ((Text.Ranges.ofText runs).flatMap piecesOf).toArray

/-- The set of single octets whose characters are the given runs; the octets after the last run have
    none. -/
def single (name aliases runs : String) : Charset :=
  total name aliases fun bytes =>
    let table := cells runs
    bytes.map fun b => (table[b.toNat]?).getD none

end Charset

end SchemaRecords

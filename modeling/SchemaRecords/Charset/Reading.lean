import SchemaRecords.Text.Half

/-!
# Reading octets as characters

A character set reads octets from left to right. Octets that mean nothing in it are one malformed
sequence or more, and reading goes on behind each of them.

* `Piece` -- a character, or a malformed sequence;
* `Step` -- what stands at the front of a run of octets;
* `read` -- the pieces of octets, by steps that carry a state from one to the next;
* `text`, `whole?` -- the text of pieces, a replacement character for each malformed sequence, and
  the text of pieces without such sequences.
-/

namespace SchemaRecords.Charset

/-! ## 1. Pieces -/

/-- A character, or nothing for a malformed sequence. -/
abbrev Piece := Option Char

/-- The text of pieces. -/
def text (pieces : List Piece) : List Char := pieces.map (·.getD Text.replacement)

/-- The text of pieces, if none of them is malformed. -/
def whole? (pieces : List Piece) : Option (List Char) := pieces.mapM id

/-! ## 2. Steps -/

/-- What stands at the front of a run of octets: characters of some octets, a malformed sequence of
    some octets, or the beginning of a sequence whose end is missing. -/
inductive Step (σ : Type) where
  | characters (s : List Char) (length : Nat) (next : σ)
  | malformed (length : Nat) (next : σ)
  | unfinished

/-- The pieces of octets, `skip` of the present ones being read already. A step sees the state, the
    number of the first octet, and the octets behind it; what the last state leaves comes at the
    end. -/
def read {σ : Type} (step : σ → Nat → List UInt8 → Step σ) (finish : σ → List Piece) :
    Nat → σ → List UInt8 → List Piece
  | _, state, [] => finish state
  | skip + 1, state, _ :: rest => read step finish skip state rest
  | 0, state, b :: rest =>
      match step state b.toNat rest with
      | .characters s length next => s.map some ++ read step finish (length - 1) next rest
      | .malformed length next => none :: read step finish (length - 1) next rest
      | .unfinished => [none]

/-- The pieces of octets by steps whose last state leaves nothing. -/
def readFrom {σ : Type} (start : σ) (step : σ → Nat → List UInt8 → Step σ) (bytes : List UInt8) :
    List Piece :=
  read step (fun _ => []) 0 start bytes

/-- The pieces of octets by steps without a state. -/
def readPlain (step : Nat → List UInt8 → Step Unit) (bytes : List UInt8) : List Piece :=
  readFrom () (fun _ => step) bytes

/-- A step to one character. -/
def Step.character {σ : Type} (n length : Nat) (next : σ) : Step σ :=
  .characters [Text.ofNumber n] length next

end SchemaRecords.Charset

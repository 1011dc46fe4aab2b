import SchemaRecords.Number.Numeral

/-!
# Faults of a JSON text

* `Cause` -- what is wrong at a place of the text; `Fault` adds how many characters are left there,
  or tells of a whole number that is too long;
* `Place.of` -- line, column and index of a place, counted in characters from one, one and zero;
* `Fault.message` -- the words for a fault of a text.
-/

namespace SchemaRecords.Json

/-! ## 1. Causes -/

/-- What is wrong at a place of a JSON text. -/
inductive Cause where
  | byteOrderMark
  | expectingValue
  | expectingName
  | expectingColon
  | expectingComma
  | unterminatedText
  | controlCharacter
  | badEscape
  | badUnicodeEscape
  | extraData
  deriving DecidableEq, Repr

/-- The words for a cause. -/
def Cause.message : Cause → String
  | .byteOrderMark => "Unexpected UTF-8 BOM (decode using utf-8-sig)"
  | .expectingValue => "Expecting value"
  | .expectingName => "Expecting property name enclosed in double quotes"
  | .expectingColon => "Expecting ':' delimiter"
  | .expectingComma => "Expecting ',' delimiter"
  | .unterminatedText => "Unterminated string starting at"
  | .controlCharacter => "Invalid control character at"
  | .badEscape => "Invalid \\escape"
  | .badUnicodeEscape => "Invalid \\uXXXX escape"
  | .extraData => "Extra data"

/-- The first fault of a JSON text: a cause with the number of characters from its place on, or a
    whole number with more digits than are allowed. -/
inductive Fault where
  | malformed (cause : Cause) (remaining : Nat)
  | longInteger (digits : Nat)
  deriving DecidableEq, Repr

/-! ## 2. Places -/

/-- A place of a text. -/
structure Place where
  line : Nat
  column : Nat
  index : Nat
  deriving DecidableEq, Repr

/-- The place after some characters; a line feed begins a new line. -/
def Place.after (before : List Char) : Place :=
  { line := before.count '\n' + 1
    column := (before.reverse.takeWhile (· != '\n')).length + 1
    index := before.length }

/-- The place of a text from which some characters are left. -/
def Place.of (text : String) (remaining : Nat) : Place :=
  let chars := text.toList
  Place.after (chars.take (chars.length - remaining))

/-- The words for a place. -/
def Place.message (p : Place) : String := s!"line {p.line} column {p.column} (char {p.index})"

/-- The words for a fault of a text. -/
def Fault.message (text : String) : Fault → String
  | .malformed cause remaining => s!"{cause.message}: {(Place.of text remaining).message}"
  | .longInteger digits => Number.tooManyDigitsMessage digits

end SchemaRecords.Json

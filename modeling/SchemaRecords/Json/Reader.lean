import SchemaRecords.Json.Fault
import SchemaRecords.Document.Value
import SchemaRecords.Text.Half
import SchemaRecords.Text.Hex

/-!
# Reading JSON

A text is read into a document value from left to right; every reader answers what it read and the
characters after it, or the first fault.

* `readText` -- the inside of a quoted text; escapes are read as units of sixteen bits, and two
  halves of a pair are joined by `joinUnits`;
* `readNumber?` -- the longest numeral at the front: whole numbers of any size, others as doubles;
* `readValue` -- a value; the steps given to it bound its depth, and twice the length of the text
  is always enough;
* `Value.ofJson` -- the value of a whole text. Keys that come again keep their place and take the
  last value.
-/

namespace SchemaRecords.Json

open Document Number

/-! ## 1. Blanks -/

/-- The blanks between the parts of a JSON text. -/
def isSpace (c : Char) : Bool := c == ' ' || c == '\t' || c == '\n' || c == '\r'

/-- The text without the blanks at its front. -/
def skipSpace (s : List Char) : List Char := s.dropWhile isSpace

/-- A fault at the place where the given characters are left. -/
def faultAt {α : Type} (cause : Cause) (rest : List Char) : Except Fault α :=
  .error (.malformed cause rest.length)

/-! ## 2. Texts -/

/-- The character number of a short escape. -/
def shortEscape? : Char → Option Nat
  | '"' => some 0x22
  | '\\' => some 0x5C
  | '/' => some 0x2F
  | 'b' => some 0x8
  | 'f' => some 0xC
  | 'n' => some 0xA
  | 'r' => some 0xD
  | 't' => some 0x9
  | _ => none

/-- One more unit in front of what was read. -/
def consUnit (n : Nat) (r : Except Fault (List Nat × List Char)) :
    Except Fault (List Nat × List Char) :=
  r.map fun (units, rest) => (n :: units, rest)

/-- The units of a text up to its closing quote; `start` characters are left at its opening one. -/
def readUnits (start : Nat) : List Char → Except Fault (List Nat × List Char)
  | [] => .error (.malformed .unterminatedText start)
  | '"' :: rest => .ok ([], rest)
  | '\\' :: 'u' :: a :: b :: c :: d :: rest =>
      match rest.isEmpty, Text.ofHex? [a, b, c, d] with
      | false, some n => consUnit n (readUnits start rest)
      | _, _ => .error (.malformed .badUnicodeEscape (rest.length + 5))
  | '\\' :: 'u' :: rest => .error (.malformed .badUnicodeEscape (rest.length + 1))
  | '\\' :: c :: rest =>
      match shortEscape? c with
      | some n => consUnit n (readUnits start rest)
      | none => .error (.malformed .badEscape (rest.length + 2))
  | ['\\'] => .error (.malformed .unterminatedText start)
  | c :: rest =>
      if c.toNat < 0x20 then faultAt .controlCharacter (c :: rest)
      else consUnit (Text.number c) (readUnits start rest)

/-- The characters of the units, two halves of a pair joined to one; a half alone stays. -/
def joinUnits : List Nat → List Char
  | [] => []
  | [n] => [Text.ofNumber n]
  | m :: n :: rest =>
      if Text.isHigh m && Text.isLow n then
        Text.ofNumber (Text.pairNumber m n) :: joinUnits rest
      else Text.ofNumber m :: joinUnits (n :: rest)

/-- A text after its opening quote. -/
def readText (s : List Char) : Except Fault (String × List Char) :=
  (readUnits (s.length + 1) s).map fun (units, rest) => (String.ofList (joinUnits units), rest)

/-! ## 3. Numbers -/

/-- The digits after a point, if there are any. -/
def readFraction : List Char → List Char × List Char
  | '.' :: rest =>
      if (rest.takeWhile isDigit).isEmpty then ([], '.' :: rest)
      else (rest.takeWhile isDigit, rest.dropWhile isDigit)
  | s => ([], s)

/-- The exponent after its mark, if it has digits. -/
def readExponent (s : List Char) : Option Int × List Char :=
  match s with
  | [] => (none, s)
  | c :: rest =>
      if c == 'e' || c == 'E' then
        let (negative, t) := readSign rest
        if (t.takeWhile isDigit).isEmpty then (none, s)
        else
          (some (Double.signed negative (decimalValue (t.takeWhile isDigit))),
            t.dropWhile isDigit)
      else (none, s)

/-- The number of a sign, a whole part, a fraction and an exponent. -/
def numeral (negative : Bool) (whole fraction : List Char) (exponent : Option Int) :
    Except Fault Scalar :=
  if fraction.isEmpty && exponent.isNone then
    if longest < whole.length then .error (.longInteger whole.length)
    else .ok (.int (Double.signed negative (decimalValue whole)))
  else .ok (.float (readDecimal negative whole fraction (exponent.getD 0)))

/-- The whole part at the front: a zero alone, or digits that do not start with one. -/
def readWhole : List Char → List Char × List Char
  | '0' :: rest => (['0'], rest)
  | s => (s.takeWhile isDigit, s.dropWhile isDigit)

/-- The number at the front, if there is one. -/
def readNumber? (s : List Char) : Option (Except Fault (Scalar × List Char)) :=
  let (negative, t) :=
    match s with
    | '-' :: rest => (true, rest)
    | _ => (false, s)
  let (whole, t) := readWhole t
  if whole.isEmpty then none
  else
    let (fraction, t) := readFraction t
    let (exponent, t) := readExponent t
    some ((numeral negative whole fraction exponent).map fun n => (n, t))

/-! ## 4. Values -/

/-- The words that stand for values. -/
def constants : List (String × Scalar) :=
  [("null", .null), ("true", .bool true), ("false", .bool false), ("NaN", .float .nan),
    ("Infinity", .float (.infinite false)), ("-Infinity", .float (.infinite true))]

/-- The text after a word at its front. -/
def afterWord? : List Char → List Char → Option (List Char)
  | [], s => some s
  | _ :: _, [] => none
  | w :: word, c :: s => if w == c then afterWord? word s else none

/-- The constant at the front, if there is one. -/
def readConstant? (s : List Char) : Option (Scalar × List Char) :=
  constants.findSome? fun (word, value) => (afterWord? word.toList s).map fun rest => (value, rest)

/-- A value that is neither a text, nor a list, nor a mapping. -/
def readPlain (s : List Char) : Except Fault (Value × List Char) :=
  match readConstant? s with
  | some (value, rest) => .ok (.scalar value, rest)
  | none =>
      match readNumber? s with
      | some r => r.map fun (value, rest) => (.scalar value, rest)
      | none => faultAt .expectingValue s

/-- The name of an entry, up to the value after its colon. -/
def readName (s : List Char) : Except Fault (String × List Char) :=
  match s with
  | '"' :: rest => do
      let (name, rest) ← readText rest
      match skipSpace rest with
      | ':' :: rest => .ok (name, skipSpace rest)
      | rest => faultAt .expectingColon rest
  | rest => faultAt .expectingName rest

mutual

/-- A value at the front of a text. -/
def readValue : Nat → List Char → Except Fault (Value × List Char)
  | 0, s => faultAt .expectingValue s
  | steps + 1, s =>
      match s with
      | '"' :: rest => (readText rest).map fun (text, rest) => (.text text, rest)
      | '{' :: rest =>
          match skipSpace rest with
          | '}' :: rest => .ok (.mapping [], rest)
          | rest => (readEntries steps rest).map fun (entries, rest) =>
              (.mapping (ofAssignments entries), rest)
      | '[' :: rest =>
          match skipSpace rest with
          | ']' :: rest => .ok (.list [], rest)
          | rest => (readItems steps rest).map fun (items, rest) => (.list items, rest)
      | s => readPlain s

/-- The entries of a mapping, up to its closing brace. -/
def readEntries : Nat → List Char → Except Fault (Entries × List Char)
  | 0, s => faultAt .expectingValue s
  | steps + 1, s => do
      let (name, rest) ← readName s
      let (value, rest) ← readValue steps rest
      match skipSpace rest with
      | '}' :: rest => .ok ([(.text name, value)], rest)
      | ',' :: rest => do
          let (entries, rest) ← readEntries steps (skipSpace rest)
          .ok ((.text name, value) :: entries, rest)
      | rest => faultAt .expectingComma rest

/-- The items of a list, up to its closing bracket. -/
def readItems : Nat → List Char → Except Fault (List Value × List Char)
  | 0, s => faultAt .expectingValue s
  | steps + 1, s => do
      let (value, rest) ← readValue steps s
      match skipSpace rest with
      | ']' :: rest => .ok ([value], rest)
      | ',' :: rest => do
          let (items, rest) ← readItems steps (skipSpace rest)
          .ok (value :: items, rest)
      | rest => faultAt .expectingComma rest

end

/-! ## 5. Whole texts -/

/-- The value of a text that holds nothing else. -/
def readWholeText (s : List Char) : Except Fault Value :=
  match s with
  | '\ufeff' :: _ => faultAt .byteOrderMark s
  | _ => do
      let (value, rest) ← readValue (2 * s.length + 2) (skipSpace s)
      match skipSpace rest with
      | [] => .ok value
      | rest => faultAt .extraData rest

end SchemaRecords.Json

namespace SchemaRecords.Document

/-- The value of a JSON text. -/
def Value.ofJson (text : String) : Except Json.Fault Value := Json.readWholeText text.toList

end SchemaRecords.Document

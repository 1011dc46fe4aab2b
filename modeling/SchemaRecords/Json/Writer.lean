import SchemaRecords.Document.Display

/-!
# Writing JSON

The JSON text of a document value, in the basic alphabet alone, with a blank after every comma and
colon.

* `escaped` -- a text between quotes, with every character outside the printable basic alphabet
  escaped, and halves of pairs as their units;
* `keyText` -- the name that a key becomes;
* `Value.toJson` -- the text; dates, moments, octets and sets have none, and whole numbers that are
  too long have none.
-/

namespace SchemaRecords.Json

open Document Number

/-! ## 1. Texts -/

/-- The escape of a unit by its number. -/
def unitEscape (n : Nat) : List Char := '\\' :: 'u' :: Text.hexFixed 4 n

/-- A character inside quotes. -/
def escapeChar (c : Char) : List Char :=
  let n := Text.number c
  if n == 0x22 then ['\\', c]
  else if n == 0x5C then ['\\', c]
  else if n == 0xA then ['\\', 'n']
  else if n == 0xD then ['\\', 'r']
  else if n == 0x9 then ['\\', 't']
  else if n == 0xC then ['\\', 'f']
  else if n == 0x8 then ['\\', 'b']
  else if 0x20 ≤ n && n < 0x7F then [c]
  else if n < 0x10000 then unitEscape n
  else unitEscape (0xD800 + (n - 0x10000) / 0x400) ++ unitEscape (0xDC00 + (n - 0x10000) % 0x400)

/-- A text between quotes. -/
def escaped (s : String) : String :=
  String.ofList (Text.doubleQuote :: s.toList.flatMap escapeChar ++ [Text.doubleQuote])

/-! ## 2. Scalars -/

/-- The words for the numbers that have no digits. -/
def words : Words := ⟨"NaN", "Infinity"⟩

/-- A value that has no JSON text: its kind, and whether it stands as a key, or a whole number
    that is too long. -/
inductive Unwritable where
  | value (kind : String)
  | key (kind : String)
  | tooLong (fault : TooLong)
  deriving DecidableEq, Repr

/-- The words for a value that has no JSON text. -/
def Unwritable.message : Unwritable → String
  | .value kind => s!"Object of type {kind} is not JSON serializable"
  | .key kind => s!"keys must be str, int, float, bool or None, not {kind}"
  | .tooLong fault => fault.message

/-- The text of a scalar. -/
def scalarText : Scalar → Except Unwritable String
  | .null => .ok "null"
  | .bool true => .ok "true"
  | .bool false => .ok "false"
  | .int n => if (Scalar.int n).isWritable then .ok (toString n) else .error (.tooLong ⟨⟩)
  | .float x => .ok (x.text words)
  | .text s => .ok (escaped s)
  | .date _ => .error (.value "date")
  | .moment _ => .error (.value "datetime")
  | .bytes _ => .error (.value "bytes")

/-- The name that a key becomes: a text is its own, any other scalar its JSON text. -/
def keyText : Scalar → Except Unwritable String
  | .text s => .ok (escaped s)
  | .date _ => .error (.key "datetime.date")
  | .moment _ => .error (.key "datetime.datetime")
  | .bytes _ => .error (.key "bytes")
  | s => (scalarText s).map escaped

end SchemaRecords.Json

/-! ## 3. Values -/

namespace SchemaRecords.Document

open Json

mutual

/-- The JSON text of a value. -/
def Value.toJson : Value → Except Unwritable String
  | .scalar s => scalarText s
  | .list items => do
      let parts ← itemTexts items
      return "[" ++ listed parts ++ "]"
  | .pair first second => do
      let a ← first.toJson
      let b ← second.toJson
      return "[" ++ listed [a, b] ++ "]"
  | .mapping entries => do
      let parts ← entryTexts entries
      return "\x7b" ++ listed parts ++ "\x7d"
  | .set _ => .error (.value "set")

/-- The JSON texts of the items of a list. -/
def itemTexts : List Value → Except Unwritable (List String)
  | [] => .ok []
  | v :: rest => do
      let text ← v.toJson
      let more ← itemTexts rest
      return text :: more

/-- The JSON texts of the entries of a mapping. -/
def entryTexts : List (Scalar × Value) → Except Unwritable (List String)
  | [] => .ok []
  | (k, v) :: rest => do
      let name ← keyText k
      let text ← v.toJson
      let more ← entryTexts rest
      return (name ++ ": " ++ text) :: more

end

end SchemaRecords.Document

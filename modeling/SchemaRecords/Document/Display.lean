import SchemaRecords.Document.Value
import SchemaRecords.Number.Layout
import SchemaRecords.Number.Numeral
import SchemaRecords.Text.Quoted

/-!
# Displayed values

Two texts of a value.

* `Value.literal` -- the value spelled out: texts are quoted, lists stand in brackets, pairs in
  parentheses, and mappings and sets in braces;
* `Value.display` -- the same, but a text stands for itself and a date is written as a date;
* `Value.isWritable` -- whether every whole number in a value has few enough digits to be written;
  `Value.literal?` is its literal only then.
-/

namespace SchemaRecords.Document

open Number Text

/-! ## 1. Scalars -/

/-- Words with commas between them. -/
def listed (words : List String) : String := ", ".intercalate words

/-- The numbers that spell out a moment; a time of the day without microseconds, or without those
    and seconds, leaves them out. -/
def Moment.parts (m : Moment) : List Nat :=
  let day := [m.date.year, m.date.month, m.date.day, m.hour, m.minute]
  if m.micro != 0 then day ++ [m.second, m.micro]
  else if m.second != 0 then day ++ [m.second]
  else day

/-- A zone spelled out. -/
def zoneLiteral (minutes : Int) : String :=
  if minutes == 0 then "tzinfo=datetime.timezone.utc"
  else
    let span := spanLiteral minutes
    s!"tzinfo=datetime.timezone({span})"

/-- A moment spelled out. -/
def Moment.literal (m : Moment) : String :=
  let words := m.parts.map toString ++ (m.zone.map zoneLiteral).toList
  "datetime.datetime(" ++ listed words ++ ")"

/-- A scalar spelled out. -/
def Scalar.literal : Scalar → String
  | .null => "None"
  | .bool true => "True"
  | .bool false => "False"
  | .int n => toString n
  | .float x => x.text Words.plain
  | .text s => quoted s
  | .date d => "datetime.date(" ++ listed ([d.year, d.month, d.day].map toString) ++ ")"
  | .moment m => m.literal
  | .bytes octets => quotedOctets octets

/-- A scalar as it is displayed. -/
def Scalar.display : Scalar → String
  | .text s => s
  | .date d => d.iso
  | .moment m => m.iso
  | s => s.literal

/-! ## 2. Values -/

mutual

/-- A value spelled out. -/
def Value.literal : Value → String
  | .scalar s => s.literal
  | .list items => "[" ++ listed (literals items) ++ "]"
  | .pair first second => "(" ++ listed [first.literal, second.literal] ++ ")"
  | .mapping entries => "\x7b" ++ listed (entryLiterals entries) ++ "\x7d"
  | .set [] => "set()"
  | .set items => "\x7b" ++ listed (items.map Scalar.literal) ++ "\x7d"

/-- The items of a list spelled out. -/
def literals : List Value → List String
  | [] => []
  | v :: rest => v.literal :: literals rest

/-- The entries of a mapping spelled out. -/
def entryLiterals : List (Scalar × Value) → List String
  | [] => []
  | (k, v) :: rest => (k.literal ++ ": " ++ v.literal) :: entryLiterals rest

end

/-- A value as it is displayed. -/
def Value.display : Value → String
  | .scalar s => s.display
  | v => v.literal

@[simp] theorem Value.display_text (s : String) : (Value.text s).display = s := rfl

/-! ## 3. Numbers that are too long -/

/-- The least whole number that has too many digits to be written. -/
def firstUnwritable : Nat := Nat.pow 10 longest

/-- Whether a scalar can be written. -/
def Scalar.isWritable : Scalar → Bool
  | .int n => n.natAbs < firstUnwritable
  | _ => true

mutual

/-- Whether a value can be written. -/
def Value.isWritable : Value → Bool
  | .scalar s => s.isWritable
  | .list items => areWritable items
  | .pair first second => first.isWritable && second.isWritable
  | .mapping entries => entriesWritable entries
  | .set items => items.all Scalar.isWritable

/-- Whether all items of a list can be written. -/
def areWritable : List Value → Bool
  | [] => true
  | v :: rest => v.isWritable && areWritable rest

/-- Whether all entries of a mapping can be written. -/
def entriesWritable : List (Scalar × Value) → Bool
  | [] => true
  | (k, v) :: rest => k.isWritable && v.isWritable && entriesWritable rest

end

@[simp] theorem Value.isWritable_text (s : String) : (Value.text s).isWritable = true := by
  simp [Value.text, Value.isWritable, Scalar.isWritable]

/-- A whole number has more digits than can be written. -/
structure TooLong where
  deriving DecidableEq, Repr

/-- The words for a whole number that cannot be written. -/
def TooLong.message (_ : TooLong) : String :=
  s!"Exceeds the limit ({longest} digits) for integer string conversion; " ++
    "use sys.set_int_max_str_digits() to increase the limit"

/-- A value spelled out, if it can be written. -/
def Value.literal? (v : Value) : Except TooLong String :=
  if v.isWritable then .ok v.literal else .error ⟨⟩

end SchemaRecords.Document

import SchemaRecords.Document.Date
import SchemaRecords.Number.Numeral
import SchemaRecords.Text.Quoted

/-!
# Faults of a YAML text

A text is malformed, or one of its scalars writes no value of the kind its tag asks for. A text in
which a node is part of itself has a value without end, which is not followed.
-/

namespace SchemaRecords.Yaml

/-- Why a text has no value. -/
inductive Fault where
  | malformed
  | endless
  | noCharacter (number : Nat)
  | calendar (fault : Document.CalendarFault)
  | noMoment
  | noTruth (word : String)
  | noWhole (base : Nat) (text : String)
  | noFloat (text : String)
  | noDigits
  | longInteger (digits : Nat)
  | longSixties
  deriving DecidableEq, Repr

/-- The greatest number that is looked up as the number of a character. -/
def greatestNumber : Nat := Nat.pow 2 31 - 1

/-- A text in quotes inside a message, of which only the first characters are shown. -/
def excerpt (text : String) : String :=
  String.ofList ((Text.quoted text).toList.take 200)

/-- The words for a fault; what is wrong with a malformed text is not told. -/
def Fault.message : Fault → String
  | .malformed => "<yaml error>"
  | .endless => "a node is part of itself"
  | .noCharacter number =>
      if greatestNumber < number then "Python int too large to convert to C int"
      else "chr() arg not in range(0x110000)"
  | .calendar fault => fault.message
  | .noMoment => "'NoneType' object has no attribute 'groupdict'"
  | .noTruth word => Text.quoted word
  | .noWhole base text => s!"invalid literal for int() with base {base}: {excerpt text}"
  | .noFloat text => s!"could not convert string to float: {Text.quoted text}"
  | .noDigits => "string index out of range"
  | .longInteger digits => Number.tooManyDigitsMessage digits
  | .longSixties => "int too large to convert to float"

/-- A malformed text. -/
def malformed {α : Type} : Except Fault α := .error .malformed

end SchemaRecords.Yaml

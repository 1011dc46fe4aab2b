import SchemaRecords.Document.Value
import SchemaRecords.Text.Base64
import SchemaRecords.Text.Case
import SchemaRecords.Yaml.Node

/-!
# The values of scalars

What the text of a scalar writes, by its tag.

* `truth`, `whole`, `float`, `calendar`, `binary` -- truth values, whole numbers, doubles, days and
  moments, and octets, by the rules of their own tags, which take in more than the spellings that a
  plain word needs to have a tag of its own;
* `scalarValue` -- the value of a text with one of the tags in `scalarTags`;
* `isNamedNan` -- whether a text is the name of the double that is not a number, and not a numeral
  for it.
-/

namespace SchemaRecords.Yaml

open Document Number

/-! ## 1. Truth values -/

/-- The truth value of a word, whatever its case. -/
def truth (text : String) : Except Fault Scalar :=
  let word := String.ofList (Text.lower text.toList)
  if ["yes", "true", "on"].contains word then .ok (.bool true)
  else if ["no", "false", "off"].contains word then .ok (.bool false)
  else .error (.noTruth word)

/-! ## 2. Whole numbers -/

/-- The whole number that a part of a numeral writes to a base. -/
def wholePart (base : Nat) (s : List Char) : Except Fault Int :=
  if base == 10 && longest < leadingDigits s then .error (.longInteger (leadingDigits s))
  else
    match int? base s with
    | some n => .ok n
    | none => .error (.noWhole base (String.ofList s))

/-- The sum of numbers in sixties, the last one the smallest. -/
def inSixties (parts : List Int) : Int := parts.foldl (fun n part => n * 60 + part) 0

/-- The number after a sign. -/
def withSign (negative : Bool) (n : Int) : Int := if negative then -n else n

/-- The text of a numeral without underscores. -/
def withoutUnderscores (text : String) : List Char := text.toList.filter (· != '_')

/-- The whole number a numeral writes. -/
def whole (text : String) : Except Fault Scalar := do
  let s := withoutUnderscores text
  let (negative, t) := readSign s
  if s.isEmpty || t.isEmpty then .error .noDigits
  else
    let n ←
      match t with
      | ['0'] => .ok 0
      | '0' :: 'b' :: rest => wholePart 2 rest
      | '0' :: 'x' :: rest => wholePart 16 rest
      | '0' :: _ => wholePart 8 t
      | _ =>
          if t.contains ':' then do
            let parts ← (colonParts t).mapM (wholePart 10)
            .ok (inSixties parts)
          else wholePart 10 t
    return .int (withSign negative n)

/-! ## 3. Doubles -/

/-- The double that a part of a numeral writes. -/
def floatPart (s : List Char) : Except Fault Double :=
  match float? s with
  | some x => .ok x
  | none => .error (.noFloat (String.ofList s))

/-- The sum of doubles in sixties, the first one the smallest. Every weight must be within the range
    of doubles, even where what it weighs is zero. -/
def sumSixties (weight : Nat) (sum : Double) : List Double → Except Fault Double
  | [] => .ok sum
  | x :: rest =>
      match Double.ofNat? weight with
      | some w => sumSixties (weight * 60) (sum.add (x.mul w)) rest
      | none => .error .longSixties

/-- The sign of a numeral of a double and the rest, in lower case and without underscores. -/
def floatText (text : String) : Bool × List Char :=
  readSign (Text.lower (withoutUnderscores text))

/-- Whether a text is the name of the double that is not a number. -/
def isNamedNan (text : String) : Bool := (floatText text).2 == ".nan".toList

/-- The double a numeral writes. -/
def float (text : String) : Except Fault Scalar := do
  let (negative, t) := floatText text
  if (withoutUnderscores text).isEmpty then .error .noDigits
  else
    let x ←
      if t == ".inf".toList then .ok (.infinite false)
      else if isNamedNan text then .ok .nan
      else if t.contains ':' then do
        let parts ← (colonParts t).mapM floatPart
        sumSixties 1 (.zero false) parts.reverse
      else floatPart t
    return .float (if negative then x.negate else x)

/-! ## 4. Days and moments -/

/-- The day or the moment a text writes. -/
def calendar (text : String) : Except Fault Scalar :=
  match calendar? (spelling text.toList) with
  | none => .error .noMoment
  | some (.day d) => (d.check.map Scalar.date).mapError .calendar
  | some (.moment m) => (m.check.map Scalar.moment).mapError .calendar

/-! ## 5. Octets -/

/-- The octets a text writes. -/
def binary (text : String) : Except Fault Scalar :=
  match Text.octets64? text.toList with
  | some octets => .ok (.bytes octets)
  | none => malformed

/-! ## 6. Tags -/

/-- The tags of scalars. -/
def scalarTags : List String :=
  ["str", "null", "bool", "int", "float", "timestamp", "binary"].map coreTag

/-- What a text with a tag writes. -/
def scalarValue (tag text : String) : Except Fault Scalar :=
  if tag == coreTag "str" then .ok (.text text)
  else if tag == coreTag "null" then .ok .null
  else if tag == coreTag "bool" then truth text
  else if tag == coreTag "int" then whole text
  else if tag == coreTag "float" then float text
  else if tag == coreTag "timestamp" then calendar text
  else if tag == coreTag "binary" then binary text
  else malformed

end SchemaRecords.Yaml

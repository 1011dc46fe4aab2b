import SchemaRecords.Document.Date
import SchemaRecords.Number.Numeral

/-!
# What plain words stand for

A plain scalar without a tag stands for a truth value, a number, nothing, a day or a moment, when it
is spelled like one, and otherwise for itself.

* `isWhole`, `isFloat` -- the spellings of numbers, among them those to the bases two, eight and
  sixteen and those in sixties;
* `isCalendar`, `calendar?` -- the spellings of days and moments, and what they say; the first asks
  for two digits where a day stands alone;
* `kindOf` -- the kind of a plain word, by the first rule that it meets.
-/

namespace SchemaRecords.Yaml

open Document Number

/-! ## 1. Words -/

/-- The spellings of the two truth values. -/
def truthWords : List String :=
  ["yes", "Yes", "YES", "no", "No", "NO", "true", "True", "TRUE", "false", "False", "FALSE",
    "on", "On", "ON", "off", "Off", "OFF"]

/-- The spellings of nothing. -/
def nullWords : List String := ["~", "null", "Null", "NULL", ""]

/-- The spellings of infinity after its sign. -/
def infinityWords : List String := [".inf", ".Inf", ".INF"]

/-- The spellings of the double that is not a number. -/
def nanWords : List String := [".nan", ".NaN", ".NAN"]

/-! ## 2. Numbers -/

/-- The text without a sign at its front. -/
def unsigned (s : List Char) : List Char := (readSign s).2

/-- A digit or an underscore. -/
def isLooseDigit (c : Char) : Bool := isDigit c || c == '_'

/-- A digit and then digits and underscores. -/
def isLooseDigits : List Char → Bool
  | [] => false
  | c :: rest => isDigit c && rest.all isLooseDigit

/-- A number below sixty, in one digit or two. -/
def isSixtieth : List Char → Bool
  | [c] => isDigit c
  | [c, d] => isDigit c && c.toNat ≤ 0x35 && isDigit d
  | _ => false

/-- The parts of a text between colons. -/
def colonParts (s : List Char) : List (List Char) := s.splitOn ':'

/-- Whether a text has parts in sixties after the first one. -/
def isSixties (first : List Char → Bool) (s : List Char) : Bool :=
  match colonParts s with
  | head :: part :: rest => first head && (part :: rest).all isSixtieth
  | _ => false

/-- A digit other than zero and then digits and underscores. -/
def isPositive (s : List Char) : Bool := isLooseDigits s && s.head? != some '0'

/-- A text that is not empty, of one class of characters and underscores. -/
def isRun (digit : Char → Bool) (s : List Char) : Bool :=
  !s.isEmpty && s.all fun c => digit c || c == '_'

/-- Whether a plain word spells a whole number. -/
def isWhole (s : List Char) : Bool :=
  match unsigned s with
  | '0' :: 'b' :: rest => isRun (fun c => c == '0' || c == '1') rest
  | '0' :: 'x' :: rest => isRun (fun c => (Number.digitOf? 16 c).isSome) rest
  | '0' :: rest => rest.isEmpty || isRun (fun c => isDigit c && c.toNat ≤ 0x37) rest
  | t => isPositive t || isSixties isPositive t

/-- An exponent with a sign, or nothing. -/
def isExponent : List Char → Bool
  | [] => true
  | e :: sign :: rest =>
      (e == 'e' || e == 'E') && (sign == '+' || sign == '-') && !rest.isEmpty && rest.all isDigit
  | _ => false

/-- Digits and underscores, and then an exponent. -/
def isFraction (s : List Char) : Bool := isExponent (s.dropWhile isLooseDigit)

/-- Whether a plain word spells a double. -/
def isFloat (s : List Char) : Bool :=
  let t := unsigned s
  let whole := t.takeWhile (· != '.')
  match t.dropWhile (· != '.') with
  | '.' :: fraction =>
      (isLooseDigits whole && isFraction fraction) ||
        (isSixties isLooseDigits whole && fraction.all isLooseDigit) ||
        infinityWords.contains (String.ofList t) ||
        (s.head? == some '.' && whole.isEmpty && (fraction.head?.map isDigit) == some true &&
          isFraction fraction) ||
        nanWords.contains (String.ofList s)
  | _ => false

/-! ## 3. Days and moments -/

/-- A number of as many digits as are there, at least `least` and at most `most`. -/
def number? (least most : Nat) (s : List Char) : Option (Nat × List Char) :=
  let digits := (s.take most).takeWhile isDigit
  if least ≤ digits.length then some (decimalValue digits, s.drop digits.length) else none

/-- The text after a character at its front. -/
def after? (c : Char) : List Char → Option (List Char)
  | [] => none
  | d :: rest => if c == d then some rest else none

/-- What a calendar text says. -/
inductive Calendar where
  | day (date : Date)
  | moment (moment : Moment)
  deriving DecidableEq, Repr

/-- The text after what stands between a day and a time. -/
def afterDay? : List Char → Option (List Char)
  | [] => none
  | c :: rest =>
      if c == 'T' || c == 't' then some rest
      else if c == ' ' || c == '\t' then some (rest.dropWhile fun d => d == ' ' || d == '\t')
      else none

/-- The microseconds of a fraction: its first six digits. -/
def microseconds (digits : List Char) : Nat :=
  let six := digits.take 6
  decimalValue six * Nat.pow 10 (6 - six.length)

/-- The fraction of a second, if there is one. -/
def fraction? : List Char → Nat × List Char
  | '.' :: rest => (microseconds (rest.takeWhile isDigit), rest.dropWhile isDigit)
  | s => (0, s)

/-- The minutes of a zone behind its hours, if there are any. -/
def zoneMinutes? : List Char → Option Nat
  | [] => some 0
  | ':' :: rest =>
      match number? 2 2 rest with
      | some (minutes, []) => some minutes
      | _ => none
  | _ => none

/-- The zone that a text says: universal time, or a sign with hours and perhaps minutes. -/
def zone? : List Char → Option Int
  | ['Z'] => some 0
  | sign :: rest =>
      if sign == '+' || sign == '-' then do
        let (hours, rest) ← number? 1 2 rest
        let minutes ← zoneMinutes? rest
        return Double.signed (sign == '-') (hours * 60 + minutes)
      else none
  | [] => none

/-- The time after a day. -/
def time? (date : Date) (s : List Char) : Option Calendar := do
  let (hour, s) ← number? 1 2 s
  let (minute, s) ← number? 2 2 (← after? ':' s)
  let (second, s) ← number? 2 2 (← after? ':' s)
  let (micro, s) := fraction? s
  if s.isEmpty then return .moment ⟨date, hour, minute, second, micro, none⟩
  else
    let zone ← zone? (s.dropWhile fun c => c == ' ' || c == '\t')
    return .moment ⟨date, hour, minute, second, micro, some zone⟩

/-- What a calendar text says. -/
def calendar? (s : List Char) : Option Calendar := do
  let (year, s) ← number? 4 4 s
  let (month, s) ← number? 1 2 (← after? '-' s)
  let (day, s) ← number? 1 2 (← after? '-' s)
  if s.isEmpty then return .day ⟨year, month, day⟩ else time? ⟨year, month, day⟩ (← afterDay? s)

/-- Whether a plain word spells a day or a moment. -/
def isCalendar (s : List Char) : Bool :=
  match calendar? s with
  | some (.day _) => s.length == 10
  | some _ => true
  | none => false

/-- The text whose spelling counts: a line feed at the end does not, unless it is all there is. -/
def spelling (s : List Char) : List Char :=
  match s.reverse with
  | '\n' :: c :: rest => (c :: rest).reverse
  | _ => s

/-! ## 4. Kinds -/

/-- The kinds of scalars, and the two words that only a mapping gives a meaning. -/
inductive PlainKind where
  | truth
  | float
  | whole
  | merge
  | null
  | calendar
  | value
  | text
  deriving DecidableEq, Repr

/-- The kind of a plain word. -/
def kindOf (text : String) : PlainKind :=
  let s := spelling text.toList
  let word := String.ofList s
  if truthWords.contains word then .truth
  else if isFloat s then .float
  else if isWhole s then .whole
  else if word == "<<" then .merge
  else if nullWords.contains word then .null
  else if isCalendar s then .calendar
  else if word == "=" then .value
  else .text

end SchemaRecords.Yaml

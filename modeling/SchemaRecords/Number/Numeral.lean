import SchemaRecords.Number.Double
import SchemaRecords.Text.DecimalDigit
import SchemaRecords.Text.Lines

/-!
# Numerals

The numbers that texts write.

* `decimalValue` -- the value of a run of decimal digits;
* `readDecimal` -- the double of digits, a fraction and an exponent;
* `float?` -- the double a text writes, with blanks around it, a sign, digits of any script, and
  the words for infinity and for not a number;
* `int?` -- the whole number a text writes to a base, with blanks around it, a sign, and the
  base's mark in front;
* `grouped?` -- the whole number of decimal digits, perhaps with low lines between them;
* `leadingDigits`, `longest` -- how many decimal digits a text begins with, and the most that a
  whole number may have, read or written.
-/

namespace SchemaRecords.Number

open Text

/-! ## 1. Digits -/

/-- Whether the character is a decimal digit of the basic alphabet. -/
def isDigit (c : Char) : Bool := 0x30 ≤ c.toNat && c.toNat ≤ 0x39

/-- The value of a run of decimal digits. -/
def decimalValue (digits : List Char) : Nat :=
  digits.foldl (fun n c => n * 10 + (c.toNat - 0x30)) 0

/-- The most decimal digits a whole number may have, read or written. -/
def longest : Nat := 4300

/-- The words for a text with too many decimal digits to be read as a whole number. -/
def tooManyDigitsMessage (digits : Nat) : String :=
  s!"Exceeds the limit ({longest} digits) for integer string conversion: value has {digits} " ++
    "digits; use sys.set_int_max_str_digits() to increase the limit"

/-- The double of a whole part, a fraction and an exponent, all of them digits. -/
def readDecimal (negative : Bool) (whole fraction : List Char) (exponent : Int) : Double :=
  Double.ofDecimal negative (decimalValue (whole ++ fraction)) (exponent - fraction.length)

/-! ## 2. Doubles -/

/-- A digit of any script as the basic one; any other character as it is. -/
def basicDigit (c : Char) : Char :=
  match digitValue? c with
  | some n => Char.ofNat (0x30 + n)
  | none => c

/-- A sign in front of a text, if there is one, and the rest. -/
def readSign : List Char → Bool × List Char
  | '-' :: rest => (true, rest)
  | '+' :: rest => (false, rest)
  | s => (false, s)

/-- The exponent that ends a numeral: nothing, or a mark, a sign and digits. -/
def exponent? : List Char → Option Int
  | [] => some 0
  | c :: rest =>
      if c == 'e' || c == 'E' then
        let (negative, digits) := readSign rest
        if !digits.isEmpty && digits.all isDigit then
          some (Double.signed negative (decimalValue digits))
        else none
      else none

/-- The double of digits with a point and an exponent. -/
def unsigned? (negative : Bool) (s : List Char) : Option Double :=
  let whole := s.takeWhile isDigit
  let (fraction, rest) :=
    match s.dropWhile isDigit with
    | '.' :: rest => (rest.takeWhile isDigit, rest.dropWhile isDigit)
    | rest => ([], rest)
  if whole.isEmpty && fraction.isEmpty then none
  else (exponent? rest).map (readDecimal negative whole fraction)

/-- Whether the text is the word, whatever its case. -/
def isWord (word : String) (s : List Char) : Bool :=
  s.map Char.toLower == word.toList

/-- The double a text writes. -/
def float? (s : List Char) : Option Double :=
  let (negative, s) := readSign ((trim s).map basicDigit)
  if isWord "inf" s || isWord "infinity" s then some (.infinite negative)
  else if isWord "nan" s then some .nan
  else unsigned? negative s

/-! ## 3. Whole numbers -/

/-- The value of a letter or digit as a digit to a large base. -/
def alphanumericValue? (c : Char) : Option Nat :=
  let n := c.toNat
  if isDigit c then some (n - 0x30)
  else if 0x61 ≤ n && n ≤ 0x7A then some (n - 0x61 + 10)
  else if 0x41 ≤ n && n ≤ 0x5A then some (n - 0x41 + 10)
  else none

/-- The value of a digit to a base. -/
def digitOf? (base : Nat) (c : Char) : Option Nat :=
  match alphanumericValue? c with
  | some n => if n < base then some n else none
  | none => none

/-- The number a run of digits writes to a base, an empty run none. -/
def digits? (base : Nat) (s : List Char) : Option Nat :=
  if s.isEmpty then none
  else s.foldlM (fun n c => (digitOf? base c).map (n * base + ·)) 0

/-- The letter that marks a base. -/
def markOf (base : Nat) : Option Char :=
  if base == 2 then some 'b' else if base == 8 then some 'o' else if base == 16 then some 'x'
  else none

/-- The text without the mark of its base. -/
def withoutMark (base : Nat) (s : List Char) : List Char :=
  match markOf base, s with
  | some mark, '0' :: c :: rest => if c.toLower == mark then rest else s
  | _, _ => s

/-- How many decimal digits follow the blanks and the sign at the front of a text. -/
def leadingDigits (s : List Char) : Nat :=
  ((readSign ((trim s).map basicDigit)).2.takeWhile isDigit).length

/-- The whole number a text writes to a base. -/
def int? (base : Nat) (s : List Char) : Option Int :=
  let (negative, s) := readSign ((trim s).map basicDigit)
  (digits? base (withoutMark base s)).map (Double.signed negative)

/-- The whole number that decimal digits write, with blanks around it, a sign, and single low lines
    between digits. -/
def grouped? (s : List Char) : Option Int :=
  let (negative, s) := readSign ((trim s).map basicDigit)
  let groups := s.splitOn '_'
  let digits := groups.flatten
  if groups.all (fun group => !group.isEmpty && group.all isDigit) && digits.length ≤ longest then
    some (Double.signed negative (decimalValue digits))
  else none

end SchemaRecords.Number

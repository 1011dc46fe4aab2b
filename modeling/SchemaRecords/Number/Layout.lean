import SchemaRecords.Number.Shortest

/-!
# The text of a double

How the digits of a double are laid out.

* the first digit's power of ten from -4 to 15 is written positionally, with at least one digit
  after the point;
* otherwise one digit stands before the point and the exponent has a sign and two digits or more;
* `Double.text` -- the whole, with the words for the numbers that have no digits.
-/

namespace SchemaRecords.Number

/-- The digits of a number, without the zeros at its end. -/
def significant (digits : Nat) : List Char :=
  ((Nat.toDigits 10 digits).reverse.dropWhile (· == '0')).reverse

/-- Zeros in a row. -/
def zeros (n : Nat) : List Char := List.replicate n '0'

/-- The digits with the point after the one of power zero. -/
def positional (digits : List Char) (power : Int) : List Char :=
  if power < 0 then '0' :: '.' :: zeros (-power - 1).toNat ++ digits
  else
    let whole := power.toNat + 1
    if digits.length ≤ whole then digits ++ zeros (whole - digits.length) ++ ['.', '0']
    else digits.take whole ++ '.' :: digits.drop whole

/-- The sign and the digits of an exponent, at least two. -/
def exponentText (power : Int) : List Char :=
  let digits := Nat.toDigits 10 power.natAbs
  (if power < 0 then '-' else '+') :: zeros (2 - digits.length) ++ digits

/-- The first digit, the others after a point, and the exponent. -/
def scientific (digits : List Char) (power : Int) : List Char :=
  match digits with
  | [] => []
  | d :: [] => d :: 'e' :: exponentText power
  | d :: rest => d :: '.' :: rest ++ 'e' :: exponentText power

/-- The text of a decimal. -/
def Decimal.text (x : Decimal) : List Char :=
  let digits := significant x.digits
  let power : Int := Double.decimalLength x.digits - 1 + x.exponent
  if -4 ≤ power && power < 16 then positional digits power else scientific digits power

/-- The words for the doubles that have no digits. -/
structure Words where
  nan : String
  infinite : String

/-- The text of a double. -/
def Double.text (w : Words) : Double → String
  | .nan => w.nan
  | .infinite s => (if s then "-" else "") ++ w.infinite
  | .finite s m e =>
      let digits := if m == 0 then "0.0" else String.ofList (shortest m e).text
      (if s then "-" else "") ++ digits

/-- The words in displayed values. -/
def Words.plain : Words := ⟨"nan", "inf"⟩

end SchemaRecords.Number

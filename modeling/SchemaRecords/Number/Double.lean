/-!
# Binary floating point numbers

The numbers of double precision as a mantissa and a binary exponent, in exact integer arithmetic.

* `Double` -- not a number, the infinities, and mantissa times a power of two, where the mantissa
  is below 2^53 and the exponent is the least possible one, at least -1074;
* `ofRatio` -- the double nearest to a quotient, of two equally near ones the even one;
* `ofDecimal` -- the double nearest to a decimal;
* `add`, `mul` -- a sum and a product;
* `ofNat?` -- the double nearest to a whole number, if that is within the range of doubles;
* `toInt?` -- the whole number a double is, if it is one.
-/

namespace SchemaRecords.Number

/-! ## 1. Doubles -/

/-- A number of double precision. -/
inductive Double where
  | nan
  | infinite (negative : Bool)
  | finite (negative : Bool) (mantissa : Nat) (exponent : Int)
  deriving DecidableEq, Repr

namespace Double

/-- The zero of a sign. -/
def zero (negative : Bool) : Double := .finite negative 0 (-1074)

/-- Whether the number is a zero of either sign. -/
def isZero : Double → Bool
  | .finite _ m _ => m == 0
  | _ => false

/-- The number with the opposite sign. -/
def negate : Double → Double
  | .nan => .nan
  | .infinite s => .infinite (!s)
  | .finite s m e => .finite (!s) m e

/-! ## 2. Rounding -/

/-- A quotient rounded to the nearest whole number, a half to the even one. -/
def roundHalfEven (n d : Nat) : Nat :=
  let q := n / d
  let r := n % d
  if 2 * r < d then q else if d < 2 * r then q + 1 else q + q % 2

/-- The quotient `n / d` divided by a power of two, as a fraction again. -/
def shifted (n d : Nat) (e : Int) : Nat × Nat :=
  if 0 ≤ e then (n, d * Nat.pow 2 e.toNat) else (n * Nat.pow 2 (-e).toNat, d)

/-- The exponent in which the quotient `n / d` has a mantissa of at most 53 bits: the estimate
    from the lengths of the two numbers is one too small when the mantissa has 54. -/
def exponentOf (n d : Nat) : Int :=
  let e : Int := max ((n.log2 : Int) - d.log2 - 53) (-1074)
  let (a, b) := shifted n d e
  if a / b < Nat.pow 2 53 then e else e + 1

/-- A mantissa of at most 2^53 at an exponent, or infinity beyond the greatest double. -/
def normalized (negative : Bool) (m : Nat) (e : Int) : Double :=
  let (m, e) := if m == Nat.pow 2 53 then (Nat.pow 2 52, e + 1) else (m, e)
  if 971 < e then .infinite negative else .finite negative m e

/-- The double nearest to the quotient of two numbers, the second not being zero. -/
def ofRatio (negative : Bool) (n d : Nat) : Double :=
  if n == 0 then zero negative
  else
    let e := exponentOf n d
    let (a, b) := shifted n d e
    normalized negative (roundHalfEven a b) e

/-- How many decimal digits a number has; zero has one. -/
def decimalLength (n : Nat) : Nat := (Nat.toDigits 10 n).length

/-- The double nearest to `digits` times a power of ten. Far outside the range of doubles the
    answer is infinity or zero at once. -/
def ofDecimal (negative : Bool) (digits : Nat) (exponent : Int) : Double :=
  if digits == 0 then zero negative
  else
    let size : Int := decimalLength digits + exponent
    if 310 < size then .infinite negative
    else if size < -330 then zero negative
    else if 0 ≤ exponent then ofRatio negative (digits * Nat.pow 10 exponent.toNat) 1
    else ofRatio negative digits (Nat.pow 10 (-exponent).toNat)

/-! ## 3. Arithmetic -/

/-- The double nearest to a whole number, unless the number lies beyond the greatest double. -/
def ofNat? (n : Nat) : Option Double :=
  match ofRatio false n 1 with
  | .finite s m e => some (.finite s m e)
  | _ => none

/-- The product of two doubles; zero times an infinity is no number. -/
def mul : Double → Double → Double
  | .finite s m e, .finite t n f =>
      if 0 ≤ e + f then ofRatio (s != t) (m * n * Nat.pow 2 (e + f).toNat) 1
      else ofRatio (s != t) (m * n) (Nat.pow 2 (-(e + f)).toNat)
  | .nan, _ => .nan
  | _, .nan => .nan
  | .infinite s, .infinite t => .infinite (s != t)
  | .infinite s, .finite t n _ => if n == 0 then .nan else .infinite (s != t)
  | .finite s m _, .infinite t => if m == 0 then .nan else .infinite (s != t)

/-- A sign and a size as an integer. -/
def signed (negative : Bool) (n : Nat) : Int := if negative then -(n : Int) else n

/-- The sum of two doubles; equal sizes of opposite signs add up to the positive zero. -/
def add : Double → Double → Double
  | .nan, _ => .nan
  | _, .nan => .nan
  | .infinite s, .infinite t => if s == t then .infinite s else .nan
  | .infinite s, _ => .infinite s
  | _, .infinite t => .infinite t
  | .finite s m e, .finite t n f =>
      let g := min e f
      let total := signed s (m * Nat.pow 2 (e - g).toNat) + signed t (n * Nat.pow 2 (f - g).toNat)
      let negative := if total == 0 then s && t else total < 0
      if 0 ≤ g then ofRatio negative (total.natAbs * Nat.pow 2 g.toNat) 1
      else ofRatio negative total.natAbs (Nat.pow 2 (-g).toNat)

/-- The whole number a double is, if it is one. -/
def toInt? : Double → Option Int
  | .finite s m e =>
      if 0 ≤ e then some (signed s (m * Nat.pow 2 e.toNat))
      else
        let d := Nat.pow 2 (-e).toNat
        if m % d == 0 then some (signed s (m / d)) else none
  | _ => none

end Double

end SchemaRecords.Number

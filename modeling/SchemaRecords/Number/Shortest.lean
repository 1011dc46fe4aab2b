import SchemaRecords.Number.Double

/-!
# The shortest decimal of a double

Of all decimals that read back as a given double, the one with the fewest digits, and of those the
nearest.

* `Interval` -- the numbers that round to a double, with its two ends included exactly when the
  mantissa is even;
* `onGrid?` -- the nearer of the two neighbours of a double among the decimals with `k` digits that
  lies in the interval; an exact tie goes to the even digit;
* `shortest` -- the first hit for one, two, … seventeen digits. Seventeen digits always suffice.
-/

namespace SchemaRecords.Number

/-! ## 1. The numbers that round to a double -/

/-- A positive double and the ends of the interval that rounds to it, as numerators over one common
    denominator. -/
structure Interval where
  low : Nat
  value : Nat
  high : Nat
  unit : Nat
  closed : Bool

/-- The interval of a mantissa at an exponent: half a step to each side, but only a quarter below
    a power of two, where the steps get smaller. -/
def Interval.of (m : Nat) (e : Int) : Interval :=
  let below := if m == Nat.pow 2 52 && -1074 < e then 1 else 2
  let grow := Nat.pow 2 e.toNat
  { low := (4 * m - below) * grow
    value := 4 * m * grow
    high := (4 * m + 2) * grow
    unit := 4 * Nat.pow 2 (-e).toNat
    closed := m % 2 == 0 }

/-- Whether the quotient `n / d` lies in the interval. -/
def Interval.holds (i : Interval) (n d : Nat) : Bool :=
  let x := n * i.unit
  if i.closed then i.low * d ≤ x && x ≤ i.high * d else i.low * d < x && x < i.high * d

/-! ## 2. Decimals -/

/-- A decimal: `digits` times ten to the power of `exponent`. -/
structure Decimal where
  digits : Nat
  exponent : Int
  deriving DecidableEq, Repr

/-- The power of ten of the first digit of a quotient. -/
def leadingPower (n d : Nat) : Int :=
  if d ≤ n then Double.decimalLength (n / d) - 1
  else -(Double.decimalLength ((d - 1) / n) : Int)

/-- The nearer neighbour of the value on a grid of decimals that lies in the interval. -/
def Interval.onGrid? (i : Interval) (exponent : Int) : Option Decimal :=
  let up := Nat.pow 10 exponent.toNat
  let down := Nat.pow 10 (-exponent).toNat
  let n := i.value * down
  let d := i.unit * up
  let q := n / d
  let r := n % d
  let lower := i.holds (q * up) down
  let upper := i.holds ((q + 1) * up) down
  if lower && upper then
    if 2 * r < d then some ⟨q, exponent⟩
    else if d < 2 * r then some ⟨q + 1, exponent⟩
    else some ⟨q + q % 2, exponent⟩
  else if lower then some ⟨q, exponent⟩
  else if upper then some ⟨q + 1, exponent⟩
  else none

/-- The shortest decimal of a positive mantissa at an exponent. -/
def shortest (m : Nat) (e : Int) : Decimal :=
  let i := Interval.of m e
  let top := leadingPower i.value i.unit
  ((List.range 17).findSome? fun (k : Nat) => i.onGrid? (top - k)).getD ⟨i.value / i.unit, 0⟩

end SchemaRecords.Number

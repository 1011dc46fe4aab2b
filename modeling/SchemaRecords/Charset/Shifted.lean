import SchemaRecords.Charset.Unicode
import SchemaRecords.Text.Base64

/-!
# Unicode in basic characters

Basic characters stand for themselves, and a plus sign shifts to units of sixteen bits in digits to
the base sixty-four, up to the first other character; a hyphen there only ends them.

* `Shift` -- the bits that wait for a whole unit, and the first half of a pair;
* `base64Step` -- what stands at an octet, within a shift or without;
* `shifted` -- the set.
-/

namespace SchemaRecords.Charset

open Text (digit64? isHigh isLow ofNumber pairNumber)

/-! ## 1. Shifts -/

/-- The bits read within a shift that are no whole unit yet, and the first half of a pair. -/
structure Shift where
  bits : Nat
  value : Nat
  half : Option Nat
  deriving DecidableEq, Repr

namespace Shift

/-- The shift at its start. -/
def start : Shift := ⟨0, 0, none⟩

/-- Whether bits are left that are no padding. -/
def isCut (s : Shift) : Bool := 6 ≤ s.bits || (0 < s.bits && s.value != 0)

/-- The characters of one more unit, and the first half of a pair that waits for its second. -/
def ofUnit (half : Option Nat) (unit : Nat) : List Char × Option Nat :=
  match half with
  | some high =>
      if isLow unit then ([ofNumber (pairNumber high unit)], none)
      else if isHigh unit then ([ofNumber high], some unit)
      else ([ofNumber high, ofNumber unit], none)
  | none => if isHigh unit then ([], some unit) else ([ofNumber unit], none)

/-- The characters of one more digit, and the shift behind it. -/
def push (s : Shift) (digit : Nat) : List Char × Shift :=
  let bits := s.bits + 6
  let value := s.value * 64 + digit
  if bits < 16 then ([], ⟨bits, value, s.half⟩)
  else
    let spare := Nat.pow 2 (bits - 16)
    let (characters, half) := ofUnit s.half (value / spare)
    (characters, ⟨bits - 16, value % spare, half⟩)

end Shift

/-! ## 2. Steps -/

/-- What stands at an octet outside of a shift. -/
def directStep (b : Nat) (rest : List UInt8) : Step (Option Shift) :=
  if b == 0x2B then
    match rest with
    | [] => .characters [] 1 (some .start)
    | c :: _ =>
        if c == 0x2D then .characters ['+'] 2 none
        else if (digit64? c.toNat).isSome then .characters [] 1 (some .start)
        else .malformed 2 none
  else if b < 0x80 then .character b 1 none
  else .malformed 1 none

/-- What stands at an octet. -/
def base64Step : Option Shift → Nat → List UInt8 → Step (Option Shift)
  | none, b, rest => directStep b rest
  | some s, b, rest =>
      match digit64? b with
      | some digit =>
          let (characters, s) := s.push digit
          .characters characters 1 (some s)
      | none =>
          if s.isCut then .malformed 1 none
          else
            let waiting := s.half.toList.map ofNumber
            if b == 0x2D then .characters waiting 1 none
            else
              match directStep b rest with
              | .characters characters length next => .characters (waiting ++ characters) length next
              | step => step

/-- What a shift leaves at the end of the octets. -/
def leftOver : Option Shift → List Piece
  | none => []
  | some s => if s.half.isSome || s.isCut then [none] else []

/-- The set of shifts. -/
def shifted : List Charset :=
  [ total "utf_7" "u7 unicode_1_1_utf_7 utf7" (read base64Step leftOver 0 none) ]

end SchemaRecords.Charset

/-!
# Octets in digits to the base sixty-four

* `digit64?` -- the value of such a digit;
* `octets64?` -- the octets that a text writes in groups of four digits, equals signs in the place
  of those that are missing in the last one.
-/

namespace SchemaRecords.Text

/-- The value of an octet as a digit to the base sixty-four. -/
def digit64? (b : Nat) : Option Nat :=
  if 0x41 ≤ b && b ≤ 0x5A then some (b - 0x41)
  else if 0x61 ≤ b && b ≤ 0x7A then some (b - 0x61 + 26)
  else if 0x30 ≤ b && b ≤ 0x39 then some (b - 0x30 + 52)
  else if b == 0x2B then some 62
  else if b == 0x2F then some 63
  else none

/-- Reads octets within a group of which `digits` digits are read already: `spare` is what the last
    one left over, and `signs` equals signs have come since. They end the text where the group is
    full of them, but do not count before its second digit; what is neither a digit nor such a sign
    is passed over. -/
def groups64? (digits spare signs : Nat) : List Char → Option (List UInt8)
  | [] => if digits == 0 then some [] else none
  | c :: rest =>
      match digit64? c.toNat, digits with
      | some d, 0 => groups64? 1 d 0 rest
      | some d, 1 => (groups64? 2 (d % 16) 0 rest).map (UInt8.ofNat (spare * 4 + d / 16) :: ·)
      | some d, 2 => (groups64? 3 (d % 4) 0 rest).map (UInt8.ofNat (spare * 16 + d / 4) :: ·)
      | some d, _ => (groups64? 0 0 0 rest).map (UInt8.ofNat (spare * 64 + d) :: ·)
      | none, _ =>
          if c != '=' || digits < 2 then groups64? digits spare signs rest
          else if digits + signs + 1 < 4 then groups64? digits spare (signs + 1) rest
          else some []

/-- The octets that a text writes; it may hold basic characters alone. -/
def octets64? (s : List Char) : Option (List UInt8) :=
  if s.all fun c => c.toNat < 0x80 then groups64? 0 0 0 s else none

end SchemaRecords.Text

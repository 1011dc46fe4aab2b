/-!
# Halves of pairs

A character behind the basic plane is a pair of two units of sixteen bits. Half of a pair is no
character, but texts are put together from the numbers of units as well, and such a text may hold a
half alone. A character of one block, which stands for nothing else, stands for it in a text.

* `isHigh`, `isLow`, `pairNumber` -- the numbers of first and of second halves, and that of the
  character of a pair;
* `isHalf`, `number` -- whether a character stands for a half, and the number that it has then;
* `received`, `receive` -- a character and a text that come from outside: there no character stands
  for a half, and those of the block are replaced;
* `ofNumber` -- the character of a number, whether it is that of a half or not.
-/

namespace SchemaRecords.Text

/-- Whether a number is that of the first half of a pair. -/
def isHigh (n : Nat) : Bool := 0xD800 ≤ n && n < 0xDC00

/-- Whether a number is that of the second half of a pair. -/
def isLow (n : Nat) : Bool := 0xDC00 ≤ n && n < 0xE000

/-- The number of the character of a pair. -/
def pairNumber (high low : Nat) : Nat := 0x10000 + (high - 0xD800) * 0x400 + (low - 0xDC00)

/-- How far behind the halves the characters lie that stand for them. -/
def halfShift : Nat := 0xD0000

/-- Whether a character stands for half of a pair. -/
def isHalf (c : Char) : Bool := 0xDD800 ≤ c.toNat && c.toNat < 0xDE000

/-- The number of a character, or of the half that it stands for. -/
def number (c : Char) : Nat := if isHalf c then c.toNat - halfShift else c.toNat

/-- The character in the place of one that cannot be had. -/
def replacement : Char := Char.ofNat 0xFFFD

/-- A character that comes from outside. -/
def received (c : Char) : Char := if isHalf c then replacement else c

/-- A text that comes from outside. -/
def receive (s : String) : String := String.ofList (s.toList.map received)

/-- The character of a number, or the one that stands for the half of the number. -/
def ofNumber (n : Nat) : Char :=
  if isHigh n || isLow n then Char.ofNat (n + halfShift) else received (Char.ofNat n)

end SchemaRecords.Text

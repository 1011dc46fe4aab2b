import SchemaRecords.Charset.Ks1001
import SchemaRecords.Charset.Pair

/-!
# Korean sets

* `syllable` -- the syllable of an initial, a vowel and a final;
* `composed?` -- the syllable that eight octets of the extended set make up;
* `unified?` -- the syllables that the set of two octets lacks, in their order;
* `combined?` -- the syllable or the letter of two octets whose bits are its parts;
* `korean` -- the sets.
-/

namespace SchemaRecords.Charset

/-! ## 1. Syllables -/

/-- The first syllable. -/
def firstSyllable : Nat := 0xAC00

/-- The number of syllables. -/
def syllableCount : Nat := 11172

/-- The syllable of an initial, a vowel and a final; a final of zero is none. -/
def syllable (initial vowel final : Nat) : Char :=
  Char.ofNat (firstSyllable + initial * 588 + vowel * 28 + final)

/-- The letters of the initials, as distances from the first letter. -/
def initials : List Nat := [0, 1, 3, 6, 7, 8, 16, 17, 18, 20, 21, 22, 23, 24, 25, 26, 27, 28, 29]

/-- The letters of the finals from the first one on, as distances from the first letter. -/
def finals : List Nat :=
  [0, 1, 2, 3, 4, 5, 6, 8, 9, 10, 11, 12, 13, 14, 15, 16, 17, 19, 20, 21, 22, 23, 25, 26, 27, 28,
    29]

/-! ## 2. The extended set -/

/-- The octet of the row of letters. -/
def letterRow : Nat := 0xA4

/-- The octet for a missing letter. -/
def filler : Nat := 0xD4

/-- The syllable of the letters of three octets. -/
def composed? (initial vowel final : Nat) : Option (List Char) := do
  let i ← initials.idxOf? (initial - 0xA1)
  let f ←
    if final == filler then some 0 else (finals.idxOf? (final - 0xA1)).map (· + 1)
  if 0xA1 ≤ initial && 0xA1 ≤ final && 0xBF ≤ vowel && vowel ≤ 0xD3 then
    some [syllable i (vowel - 0xBF) f]
  else none

/-- What stands at an octet of the extended set: a filler begins a syllable of eight octets. -/
def koreanStep (b : Nat) (rest : List UInt8) : Step Unit :=
  if b == letterRow && rest.head?.map (·.toNat) == some filler then
    match (rest.take 7).map (·.toNat) with
    | [_, r, initial, s, vowel, t, final] =>
        if [r, s, t].all (· == letterRow) then found 8 () (composed? initial vowel final)
        else .malformed 1 ()
    | _ => .unfinished
  else doubleStep (fun b c => alone ((highCode? b c).bind ks1001.get?)) b rest

/-! ## 3. The unified set -/

/-- The syllables that the set of two octets lacks. -/
def lackingSyllables : Array Char := ks1001.lacking firstSyllable syllableCount

/-- The place of a second octet among those of the unified set. -/
def unifiedPlace? (c : Nat) : Option Nat :=
  if 0x41 ≤ c && c ≤ 0x5A then some (c - 0x41)
  else if 0x61 ≤ c && c ≤ 0x7A then some (c - 0x61 + 26)
  else if 0x81 ≤ c && c ≤ 0xFE then some (c - 0x81 + 52)
  else none

/-- The place of two octets among those of the unified set; the first ones have all second octets,
    and the later ones those below the row of the set of two octets. -/
def unifiedIndex? (b c : Nat) : Option Nat := do
  let place ← unifiedPlace? c
  if b < 0x81 then none
  else if b < 0xA1 then some ((b - 0x81) * 178 + place)
  else if place < 84 then some (32 * 178 + (b - 0xA1) * 84 + place)
  else none

/-- The character of two octets of the unified set. -/
def unified? (b c : Nat) : Option Char :=
  (highCode? b c).bind ks1001.get? <|> (unifiedIndex? b c).bind (lackingSyllables[·]?)

/-! ## 4. The combining set -/

/-- What five bits say about a part of a syllable: the part, or that it is missing. -/
inductive Part where
  | missing
  | at (index : Nat)
  deriving DecidableEq, Repr

/-- The initial of five bits. -/
def initialPart? (n : Nat) : Option Part :=
  if n == 1 then some .missing else if 2 ≤ n && n ≤ 20 then some (.at (n - 2)) else none

/-- The vowel of five bits. -/
def vowelPart? (n : Nat) : Option Part :=
  if n == 2 then some .missing
  else if 3 ≤ n && n ≤ 7 then some (.at (n - 3))
  else if 10 ≤ n && n ≤ 15 then some (.at (n - 5))
  else if 18 ≤ n && n ≤ 23 then some (.at (n - 7))
  else if 26 ≤ n && n ≤ 29 then some (.at (n - 9))
  else none

/-- The final of five bits, from one on. -/
def finalPart? (n : Nat) : Option Part :=
  if n == 1 then some .missing
  else if 2 ≤ n && n ≤ 17 then some (.at (n - 1))
  else if 19 ≤ n && n ≤ 29 then some (.at (n - 2))
  else none

/-- The letter at a distance from the first one. -/
def letterAt (distance : Nat) : Char := Char.ofNat (0x3131 + distance)

/-- The character of the parts of a syllable: a part alone is a letter, and none a blank. -/
def ofParts? : Part → Part → Part → Option Char
  | .missing, .missing, .missing => some (Char.ofNat 0x3000)
  | .missing, .missing, .at f => (finals[f - 1]?).map letterAt
  | .missing, .at v, .missing => some (letterAt (30 + v))
  | .at i, .missing, .missing => (initials[i]?).map letterAt
  | .at i, .at v, .missing => some (syllable i v 0)
  | .at i, .at v, .at f => some (syllable i v f)
  | _, _, _ => none

/-- The character of two octets whose bits are the parts of a syllable. -/
def combined? (b c : Nat) : Option Char := do
  let initial ← initialPart? (b / 4 % 32)
  let vowel ← vowelPart? (b % 4 * 8 + c / 32)
  let final ← finalPart? (c % 32)
  ofParts? initial vowel final

/-- The character of two octets behind those of the syllables, two rows for each first octet. -/
def sign? (b c : Nat) : Option Char :=
  let isOutside := b < 0xD9 || b == 0xDF || 0xF9 < b || c < 0x31 || (0x80 ≤ c && c < 0x91) ||
    c % 0x80 == 0x7F || (b == 0xDA && 0xA1 ≤ c && c ≤ 0xD3)
  if isOutside then none
  else
    let row := if b < 0xE0 then 2 * (b - 0xD9) else 2 * b - 0x197
    let place := if c < 0x91 then c - 0x31 else c - 0x43
    ks1001.get? (codeOf (row + place / 94 + 0x21) (place % 94 + 0x21))

/-- The character of two octets of the combining set. -/
def combining? (b c : Nat) : Option Char := if b < 0xD8 then combined? b c else sign? b c

/-! ## 5. Sets -/

/-- The Korean sets of octets without escapes. -/
def korean : List Charset :=
  [ total "euc_kr" "euckr korean ks_c_5601 ks_c_5601_1987 ks_x_1001 ksc5601 ksx1001 x_mac_korean"
      (readPlain koreanStep),
    total "cp949" "949 ms949 uhc" (readPlain (doubleStep fun b c => alone (unified? b c))),
    total "johab" "cp1361 ms1361" (readPlain (doubleStep fun b c => alone (combining? b c))) ]

end SchemaRecords.Charset

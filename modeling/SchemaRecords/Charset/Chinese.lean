import SchemaRecords.Charset.Big5
import SchemaRecords.Charset.Gb18030
import SchemaRecords.Charset.Gb2312
import SchemaRecords.Charset.HongKong
import SchemaRecords.Charset.Pair

/-!
# Chinese sets

* `simplified?` -- the character of two octets in the first extension of the first set, which puts
  the ideographs that the first set lacks into their order;
* `wideStep` -- what stands at an octet of the second extension, with codes of four octets;
* `bracedStep` -- what stands at an octet of the set in basic characters, with tildes and braces;
* `hongKong?` -- the characters of two octets in the traditional set of Hong Kong;
* `chinese` -- the sets.
-/

namespace SchemaRecords.Charset

/-! ## 1. The first set and its extensions -/

/-- The ideographs that the first set lacks. -/
def lackingIdeographs : Array Char := gb2312.lacking 0x4E00 20902

/-- The place of a second octet of the first extension. -/
def simplifiedPlace? (c : Nat) : Option Nat :=
  if c < 0x40 || c == 0x7F || c == 0xFF then none
  else some (if c < 0x7F then c - 0x40 else c - 0x41)

/-- The place of two octets among those of the ideographs that the first set lacks. -/
def simplifiedIndex? (b c : Nat) : Option Nat := do
  let place ← simplifiedPlace? c
  if b < 0x81 then none
  else if b < 0xA1 then some ((b - 0x81) * 190 + place)
  else if 0xAA ≤ b && place < 96 then some (32 * 190 + (b - 0xAA) * 96 + place)
  else none

/-- The character of two octets in the first extension. -/
def simplified? (b c : Nat) : Option Char :=
  gbkSigns.get? (codeOf b c) <|> (highCode? b c).bind gb2312.get? <|>
    (simplifiedIndex? b c).bind (lackingIdeographs[·]?)

/-- The number of characters of sixteen bits in codes of four octets. -/
def wideCount : Nat := 39420

/-- The character at a place in ranges. -/
def atPlace? : Text.Ranges → Nat → Option Char
  | [], _ => none
  | (first, last) :: rest, n =>
      if n < last + 1 - first then some (Char.ofNat (first + n))
      else atPlace? rest (n - (last + 1 - first))

/-- The character of four octets: the second and the fourth are digits. -/
def wide? (b c d e : Nat) : Option Char :=
  let isOutside := b < 0x81 || 0xFE < b || d < 0x81 || 0xFE < d || e < 0x30 || 0x39 < e
  let place := ((b - 0x81) * 10 + (c - 0x30)) * 1260 + (d - 0x81) * 10 + (e - 0x30)
  let beyond := 15 * 12600
  if isOutside then none
  else if b < 0x85 then if place < wideCount then atPlace? gb18030Ranges place else none
  else if beyond ≤ place && place - beyond < 0x100000 then
    some (Text.ofNumber (0x10000 + (place - beyond)))
  else none

/-- What stands at an octet of the second extension. -/
def wideStep (b : Nat) (rest : List UInt8) : Step Unit :=
  if b < 0x80 then .character b 1 ()
  else
    match rest with
    | [] => .unfinished
    | c :: rest =>
        if 0x30 ≤ c.toNat && c.toNat ≤ 0x39 then
          match rest with
          | d :: e :: _ => found 4 () (alone (wide? b c.toNat d.toNat e.toNat))
          | _ => .unfinished
        else
          found 2 () (alone (simplified? b c.toNat <|> gb18030Spans.get? (codeOf b c.toNat)))

/-! ## 2. The first set in basic characters -/

/-- Whether two octets are a character, rather than each octet a basic one. -/
abbrev Braced := Bool

/-- What stands at a tilde and the octet behind it. -/
def tildeStep (braced : Braced) (c : Char) : Step Braced :=
  match braced, c with
  | false, '~' => .characters ['~'] 2 false
  | false, '\n' => .characters [] 2 false
  | false, '\x7b' => .characters [] 2 true
  | true, '\x7d' => .characters [] 2 false
  | _, _ => .malformed 1 braced

/-- What stands at an octet. -/
def bracedStep (braced : Braced) (b : Nat) (rest : List UInt8) : Step Braced :=
  if b == 0x7E then
    match rest with
    | [] => .unfinished
    | c :: _ => tildeStep braced (Char.ofNat c.toNat)
  else if 0x80 ≤ b then .malformed 1 braced
  else if braced then
    match rest with
    | [] => .unfinished
    | c :: _ => found 2 braced (alone (gb2312.get? (codeOf b c.toNat)))
  else .character b 1 braced

/-! ## 3. The traditional sets -/

/-- The character of two octets in the numbered variant of the traditional set. -/
def traditionalNumbered? (b c : Nat) : Option Char :=
  big5Numbered.get? (codeOf b c) <|> big5.get? (codeOf b c)

/-- Whether the code of two octets keeps its character in the set of Hong Kong. -/
def isKept (b c : Nat) : Bool := b < 0xC6 || 0xC8 < b || (b < 0xC7 && c < 0xA1)

/-- The characters of two octets in the set of Hong Kong. -/
def hongKong? (b c : Nat) : Option (List Char) :=
  let code := codeOf b c
  alone (if isKept b c then big5.get? code else none) <|> alone (hongKong.get? code) <|>
    hongKongPairs.get? code

/-! ## 4. Sets -/

/-- The Chinese sets of octets without escapes. -/
def chinese : List Charset :=
  [ total "gb2312"
      "chinese csiso58gb231280 euc_cn euccn eucgb2312_cn gb2312_1980 gb2312_80 iso_ir_58
       x_mac_simp_chinese"
      (readPlain (doubleStep fun b c => alone ((highCode? b c).bind gb2312.get?))),
    total "gbk" "936 cp936 ms936" (readPlain (doubleStep fun b c => alone (simplified? b c))),
    total "gb18030" "gb18030_2000" (readPlain wideStep),
    total "hz" "hz_gb hz_gb_2312 hzgb" (readFrom false bracedStep),
    total "big5" "big5_tw csbig5 x_mac_trad_chinese"
      (readPlain (doubleStep fun b c => alone (big5.get? (codeOf b c)))),
    total "cp950" "950 ms950"
      (readPlain (doubleStep fun b c => alone (traditionalNumbered? b c))),
    total "big5hkscs" "big5_hkscs hkscs" (readPlain (doubleStep hongKong?)) ]

end SchemaRecords.Charset

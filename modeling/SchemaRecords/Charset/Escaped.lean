import SchemaRecords.Charset.Basic

/-!
# Characters by their escapes

Octets stand for the first characters of Unicode, and a backslash starts the escape of any other.

* `hexStep` -- a letter and the hexadecimal digits that it asks for;
* `escapedStep` -- the escapes of numbers, of control characters and of the marks of a quoted text;
* `rawEscapedStep` -- the escapes of numbers with four and with eight digits alone;
* `escaped` -- both sets.
-/

namespace SchemaRecords.Charset

open Text

/-! ## 1. Numbers -/

/-- The value of a hexadecimal digit. -/
def hexOctet? (b : UInt8) : Option Nat := hexValue? (Char.ofNat b.toNat)

/-- The value of an octal digit. -/
def octalOctet? (b : UInt8) : Option Nat :=
  if 0x30 ≤ b.toNat && b.toNat ≤ 0x37 then some (b.toNat - 0x30) else none

/-- The digits at the front of octets, at most a number of them. -/
def digitsOf (value? : UInt8 → Option Nat) : Nat → List UInt8 → List Nat
  | 0, _ => []
  | _ + 1, [] => []
  | most + 1, b :: rest =>
      match value? b with
      | some n => n :: digitsOf value? most rest
      | none => []

/-- The number that digits write to a base. -/
def valueOf (base : Nat) (digits : List Nat) : Nat := digits.foldl (fun n d => n * base + d) 0

/-- What stands at a backslash, a letter, and the octets behind them that have to be some
    hexadecimal digits. -/
def hexStep (width : Nat) (rest : List UInt8) : Step Unit :=
  let digits := digitsOf hexOctet? width rest
  let n := valueOf 16 digits
  if digits.length == width && n < 0x110000 then
    .characters [ofNumber n] (width + 2) ()
  else .malformed (digits.length + 2) ()

/-- How many digits the letter of an escape asks for. -/
def hexWidth? (letter : UInt8) : Option Nat :=
  if letter == 0x78 then some 2 else if letter == 0x75 then some 4
  else if letter == 0x55 then some 8 else none

/-! ## 2. Steps -/

/-- The characters that stand for others behind a backslash. -/
def signs : List (Char × List Char) :=
  [('\n', []), ('\\', ['\\']), ('\'', ['\'']), ('"', ['"']), ('b', ['\x08']), ('f', ['\x0c']),
    ('t', ['\t']), ('n', ['\n']), ('r', ['\r']), ('v', ['\x0b']), ('a', ['\x07'])]

/-- How many octets a name in braces behind a backslash takes: no name is known. -/
def nameLength (rest : List UInt8) : Nat :=
  match rest with
  | 0x7B :: name =>
      let length := (name.takeWhile (· != 0x7D)).length
      if length == name.length then length + 3 else if length == 0 then 3 else length + 4
  | _ => 2

/-- What stands at an octet with all escapes. -/
def escapedStep (b : Nat) (rest : List UInt8) : Step Unit :=
  if b != 0x5C then .character b 1 ()
  else
    match rest with
    | [] => .malformed 1 ()
    | letter :: rest =>
        let c := Char.ofNat letter.toNat
        match signs.lookup c, hexWidth? letter, octalOctet? letter with
        | some characters, _, _ => .characters characters 2 ()
        | none, some width, _ => hexStep width rest
        | none, none, some digit =>
            let digits := digit :: digitsOf octalOctet? 2 rest
            .character (valueOf 8 digits) (digits.length + 1) ()
        | none, none, none =>
            if c == 'N' then .malformed (nameLength rest) ()
            else .characters ['\\', c] 2 ()

/-- What stands at an octet with escapes of four and eight digits. -/
def rawEscapedStep (b : Nat) (rest : List UInt8) : Step Unit :=
  if b != 0x5C then .character b 1 ()
  else
    match rest with
    | [] => .character b 1 ()
    | letter :: rest =>
        match if letter == 0x78 then none else hexWidth? letter with
        | some width => hexStep width rest
        | none => .characters ['\\', Char.ofNat letter.toNat] 2 ()

/-- The sets of escapes. -/
def escaped : List Charset :=
  [ total "unicode_escape" "" (readPlain escapedStep),
    total "raw_unicode_escape" "" (readPlain rawEscapedStep) ]

end SchemaRecords.Charset

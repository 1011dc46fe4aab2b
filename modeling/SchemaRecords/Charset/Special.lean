import SchemaRecords.Charset.Basic
import SchemaRecords.Text.Punycode

/-!
# Sets that are none of characters

Some names stand for other ways to write octets or texts, which never give a text, and one for the
form of labels, which gives the text as far as it can be read.

* `labelPieces`, `labelText?` -- the characters of octets in the form of labels, and their faithful
  text;
* `special` -- the sets.
-/

namespace SchemaRecords.Charset

/-- The first octet outside the basic alphabet and its place. -/
def foreignOctet? (bytes : List UInt8) : Option (UInt8 × Nat) :=
  bytes.zipIdx.find? fun (b, _) => 0x80 ≤ b.toNat

/-- Octets as characters of the basic alphabet. -/
def writtenBasic (bytes : List UInt8) : List Char :=
  bytes.map fun b => if b.toNat < 0x80 then Char.ofNat b.toNat else Text.replacement

/-- The characters of octets in the form of labels. The digits behind the last hyphen have to be
    basic characters. -/
def labelPieces (bytes : List UInt8) : Except Fault (List Piece) :=
  let written := writtenBasic bytes
  let (basic, digits) := Text.Punycode.parts written
  match foreignOctet? (bytes.drop (bytes.length - digits.length)) with
  | some (b, place) => .error (.foreignOctet b.toNat place)
  | none => .ok ((Text.Punycode.insert Text.Punycode.nearest? basic digits).1.map some)

/-- The text of octets in the form of labels. -/
def labelText? (bytes : List UInt8) : Option (List Char) :=
  if (foreignOctet? bytes).isSome then none else Text.Punycode.decode (writtenBasic bytes)

/-- A set whose octets never give a text. -/
def refusing (name aliases : String) (fault : Fault) : Charset :=
  { name, aliases, decode := fun _ => .error fault }

/-- The sets that are none of characters. -/
def special : List Charset :=
  [ ⟨"punycode", "", labelPieces, labelText?⟩,
    refusing "idna" "" .notReplacing,
    refusing "undefined" "" .meaningless,
    refusing "rot_13" "rot13" .charactersOnly,
    refusing "base64_codec" "base64 base_64" .notCharacters,
    refusing "bz2_codec" "bz2" .notCharacters,
    refusing "hex_codec" "hex" .notCharacters,
    refusing "quopri_codec" "quopri quoted_printable quotedprintable" .notCharacters,
    refusing "uu_codec" "uu" .notCharacters,
    refusing "zlib_codec" "zip zlib" .notCharacters ]

end SchemaRecords.Charset

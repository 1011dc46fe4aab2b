import SchemaRecords.Text.Half
import SchemaRecords.Text.Hex

/-!
# UTF-8

Characters as octets and back, with the position and the kind of the first malformed sequence.

* `encode` -- the octets of a text;
* `next` -- the first character of a run of octets, or the longest malformed start of it;
* `decode` -- the text, or the first fault; `decodeLossy` puts a replacement character for every
  malformed sequence instead;
* `Handling`, `refusal?` -- what becomes of the halves of a text that is to be written, and the
  first ones for which it is refused; `octets`, `size` -- its octets where halves stand for some, and
  how many there are.
-/

namespace SchemaRecords.Text.Utf8

/-! ## 1. Writing -/

/-- The octets of a text. -/
def encode (s : String) : List UInt8 :=
  s.toList.flatMap String.utf8EncodeChar

/-! ## 2. One step of reading -/

/-- Why a sequence of octets is no character. -/
inductive Reason where
  | invalidStart
  | invalidContinuation
  | unexpectedEnd
  deriving DecidableEq, Repr

/-- The words for a reason. -/
def Reason.message : Reason → String
  | .invalidStart => "invalid start byte"
  | .invalidContinuation => "invalid continuation byte"
  | .unexpectedEnd => "unexpected end of data"

/-- What stands at the start of a run of octets: a character of some length, or a malformed
    sequence of some length. -/
inductive Step where
  | character (c : Char) (length : Nat)
  | malformed (length : Nat) (reason : Reason)

/-- The continuation octets a lead octet asks for: the bounds of the first, and how many more. -/
def demand (lead : Nat) : Option (Nat × Nat × Nat) :=
  if lead < 0xC2 then none
  else if lead < 0xE0 then some (0x80, 0xBF, 0)
  else if lead == 0xE0 then some (0xA0, 0xBF, 1)
  else if lead == 0xED then some (0x80, 0x9F, 1)
  else if lead < 0xF0 then some (0x80, 0xBF, 1)
  else if lead == 0xF0 then some (0x90, 0xBF, 2)
  else if lead < 0xF4 then some (0x80, 0xBF, 2)
  else if lead == 0xF4 then some (0x80, 0x8F, 2)
  else none

/-- Reads the continuation octets into the number `value`, `length` octets being read already;
    the next one lies between `low` and `high` and `more` follow it. -/
def continuation (value length low high : Nat) : Nat → List UInt8 → Step
  | _, [] => .malformed length .unexpectedEnd
  | 0, b :: _ =>
      if low ≤ b.toNat && b.toNat ≤ high then
        .character (Char.ofNat (value * 64 + b.toNat % 64)) (length + 1)
      else .malformed length .invalidContinuation
  | more + 1, b :: rest =>
      if low ≤ b.toNat && b.toNat ≤ high then
        continuation (value * 64 + b.toNat % 64) (length + 1) 0x80 0xBF more rest
      else .malformed length .invalidContinuation

/-- The bits of a lead octet that belong to the character. -/
def leadBits (lead : Nat) : Nat :=
  if lead < 0xE0 then lead % 32 else if lead < 0xF0 then lead % 16 else lead % 8

/-- What stands at an octet and those after it. -/
def next (b : UInt8) (rest : List UInt8) : Step :=
  if b.toNat < 0x80 then .character (Char.ofNat b.toNat) 1
  else
    match demand b.toNat with
    | none => .malformed 1 .invalidStart
    | some (low, high, more) => continuation (leadBits b.toNat) 1 low high more rest

/-! ## 3. Whole texts -/

/-- The first malformed sequence of a run of octets. -/
structure Fault where
  first : UInt8
  position : Nat
  length : Nat
  reason : Reason
  deriving DecidableEq, Repr

/-- The words for a fault: one octet is shown, several are counted. -/
def Fault.message (f : Fault) : String :=
  let place :=
    if f.length == 1 then
      s!"byte 0x{String.ofList (hexFixed 2 f.first.toNat)} in position {f.position}"
    else s!"bytes in position {f.position}-{f.position + f.length - 1}"
  s!"'utf-8' codec can't decode {place}: {f.reason.message}"

/-- The characters of the octets, `position` octets being read and `skip` of the present ones
    being read already. -/
def decodeFrom (position : Nat) : Nat → List UInt8 → Except Fault (List Char)
  | _, [] => .ok []
  | skip + 1, _ :: rest => decodeFrom (position + 1) skip rest
  | 0, b :: rest =>
      match next b rest with
      | .character c length => do
          let more ← decodeFrom (position + 1) (length - 1) rest
          return c :: more
      | .malformed length reason => .error ⟨b, position, length, reason⟩

/-- The text the octets encode. -/
def decode (bytes : List UInt8) : Except Fault String :=
  (decodeFrom 0 0 bytes).map String.ofList

/-- The characters of the octets, with a replacement character for every malformed sequence. -/
def decodeLossyFrom : Nat → List UInt8 → List Char
  | _, [] => []
  | skip + 1, _ :: rest => decodeLossyFrom skip rest
  | 0, b :: rest =>
      match next b rest with
      | .character c length => c :: decodeLossyFrom (length - 1) rest
      | .malformed length _ => replacement :: decodeLossyFrom (length - 1) rest

/-- The text the octets encode, as far as they do. -/
def decodeLossy (bytes : List UInt8) : String :=
  String.ofList (decodeLossyFrom 0 bytes)

/-! ## 4. Halves -/

/-- What becomes of halves where a text is written: it is refused for any of them, or some stand for
    octets that are no character. -/
inductive Handling where
  | strict
  | lenient
  deriving DecidableEq, Repr

/-- Whether a character is written. -/
def Handling.takes (handling : Handling) (c : Char) : Bool :=
  !isHalf c || (handling == .lenient && 0xDC80 ≤ number c && number c ≤ 0xDCFF)

/-- The first half that is not written, with the run of halves that it begins. -/
structure Refusal where
  first : Char
  position : Nat
  length : Nat
  deriving DecidableEq, Repr

/-- The words for a refusal: one half is shown, several are counted. -/
def Refusal.message (r : Refusal) : String :=
  let shown := String.ofList (hexFixed 4 (number r.first))
  let place :=
    if r.length == 1 then s!"character '\\u{shown}' in position {r.position}"
    else s!"characters in position {r.position}-{r.position + r.length - 1}"
  s!"'utf-8' codec can't encode {place}: surrogates not allowed"

/-- Why a text is not written, if it is not. -/
def refusal? (handling : Handling) (s : String) : Option Refusal :=
  match s.toList.dropWhile handling.takes with
  | [] => none
  | c :: rest =>
      let position := (s.toList.takeWhile handling.takes).length
      some ⟨c, position, (rest.takeWhile isHalf).length + 1⟩

/-- The octets of a text in which halves stand for octets. -/
def octets (s : String) : List UInt8 :=
  s.toList.flatMap fun c =>
    if isHalf c then [UInt8.ofNat (number c - 0xDC00)] else String.utf8EncodeChar c

/-- The number of the octets of a text in which halves stand for octets. -/
def size (s : String) : Nat := (octets s).length

theorem size_append (s t : String) : size (s ++ t) = size s + size t := by
  rw [size, octets, String.toList_append, List.flatMap_append, List.length_append]
  rfl

end SchemaRecords.Text.Utf8

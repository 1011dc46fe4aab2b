import SchemaRecords.Number.Numeral
import SchemaRecords.Web.Label

/-!
# Hosts

The host of an address is a number in one of two forms, or a name.

* `isFourPart`, `isFourPartNumber` -- the texts that look like four numbers with dots, and those
  that are;
* `isColonNumber` -- whether a text is a number in parts of sixteen bits, with colons;
* `encodeName` -- the form in which a name with characters outside the basic alphabet is sent, and
  `decodeName` the name of such a form;
* `escapeExcept`, `unescape` -- characters as escapes of their octets, and the octets of a text;
* `normalHost` -- the form in which a host is sent.
-/

namespace SchemaRecords.Web

open Text

/-! ## 1. Numbers of four parts -/

/-- Whether a text is four runs of digits with one character between two of them, which may be a
    digit as well. -/
def isFourPart (s : List Char) : Bool :=
  let runs := (s.map fun c => if Number.isDigit c then c else '.').splitOn '.'
  let hidden := (runs.map fun run => (run.length - 1) / 2).foldr (· + ·) 0
  runs.length ≤ 4 && runs.all (!·.isEmpty) && 4 ≤ runs.length + hidden

/-- Whether a text is a number below 256 without zeros in front. -/
def isOctet (s : List Char) : Bool :=
  !s.isEmpty && s.all Number.isDigit && s.length ≤ 3 && (s == ['0'] || s.head? != some '0') &&
    Number.decimalValue s ≤ 255

/-- Whether a text is four numbers below 256 with dots between them. -/
def isFourPartNumber (s : List Char) : Bool :=
  let parts := s.splitOn '.'
  parts.length == 4 && parts.all isOctet

/-! ## 2. Numbers with colons -/

/-- Whether a text is a part of sixteen bits. -/
def isColonPart (s : List Char) : Bool :=
  !s.isEmpty && s.length ≤ 4 && s.all fun c => (hexValue? c).isSome

/-- The parts of a number with colons; four numbers with dots at its end stand for two of them. -/
def colonNumberParts (s : List Char) : Option (List (List Char)) :=
  let parts := s.splitOn ':'
  match parts.getLast? with
  | none => none
  | some last =>
      if parts.length < 3 then none
      else if last.contains '.' then
        if isFourPartNumber last then some (parts.dropLast ++ [['0'], ['0']]) else none
      else some parts

/-- Whether parts stand for eight: all of them are there, or the one run of zeros that an empty
    part inside stands for is left out. At the ends only such a run explains an empty part. -/
def areEightParts (parts : List (List Char)) : Bool :=
  let inner := (parts.drop 1).dropLast
  match inner.findIdx? List.isEmpty with
  | none => parts.length == 8 && parts.all isColonPart
  | some i =>
      let before := parts.take (i + 1)
      let after := parts.drop (i + 2)
      let before := if before == [[]] then [] else before
      let after := if after == [[]] then [] else after
      before.length + after.length < 8 && before.all isColonPart && after.all isColonPart

/-- Whether a text is a number with colons, perhaps with a zone behind a percent sign. -/
def isColonNumber (s : List Char) : Bool :=
  let number := s.takeWhile (· != '%')
  let zone := s.dropWhile (· != '%')
  let zoneFits := zone.isEmpty || (1 < zone.length && !(zone.drop 1).contains '%')
  !s.contains '/' && zoneFits && ((colonNumberParts number).map areEightParts).getD false

/-! ## 3. Names -/

/-- The characters that end a label of a name. -/
def isDot (c : Char) : Bool := [0x2E, 0x3002, 0xFF0E, 0xFF61].contains c.toNat

/-- The most characters that a name may have when it is sent, without a dot at its end. -/
def longestName : Nat := 253

/-- The form in which a name is sent; a dot may end it. No form is shorter than its name, so a name
    that is too long is refused before its labels are read. -/
def encodeName (name : List Char) : Option (List Char) := do
  guard (name.length ≤ longestName + 1)
  let labels := (name.map fun c => if isDot c then '.' else c).splitOn '.'
  let ending := labels.getLast? == some []
  let labels := if ending then labels.dropLast else labels
  let forms ← (labels.mapM encodeLabel).toOption
  let form := ['.'].intercalate forms
  if forms.isEmpty || longestName < form.length then none
  else some (if ending then form ++ ['.'] else form)

/-- The name that is sent in a form, if its first label is in the basic form; the form itself
    otherwise. -/
def decodeName (form : List Char) : Except LabelFault (List Char) :=
  if form.take basicMark.length != basicMark then .ok form
  else if longestName + 1 < form.length then .error .nameTooLong
  else do
    let labels := form.splitOn '.'
    let ending := labels.getLast? == some []
    let names ← (if ending then labels.dropLast else labels).mapM decodeLabel
    return ['.'].intercalate (if ending then names ++ [[]] else names)

/-! ## 4. Escapes -/

/-- The escape of an octet. -/
def escapeOctet (b : UInt8) : List Char :=
  '%' :: (hexFixed 2 b.toNat).map Char.toUpper

/-- The text with the escapes of all characters that are not printable basic ones, or are in the
    given class. Halves have none. -/
def escapeExcept (unsafeChars : List Char) (s : List Char) : List Char :=
  s.flatMap fun c =>
    if 0x21 ≤ c.toNat && c.toNat < 0x7F && !unsafeChars.contains c then [c]
    else (String.utf8EncodeChar c).flatMap escapeOctet

/-- The octets of a text, those of its escapes in their place. -/
def unescape : List Char → List UInt8
  | [] => []
  | '%' :: a :: b :: rest =>
      match ofHex? [a, b] with
      | some n => n.toUInt8 :: unescape rest
      | none => 0x25 :: unescape (a :: b :: rest)
  | c :: rest => String.utf8EncodeChar c ++ unescape rest
termination_by s => s.length

/-- The characters that a host may not hold. -/
def hostUnsafe : List Char := "#/:<>?@[]^".toList

/-! ## 5. Hosts -/

/-- Why a text is no host. -/
inductive HostFault where
  | fourPart (host : List Char)
  | colon (host : List Char)
  | name (host : List Char)
  deriving DecidableEq, Repr

/-- The words for a fault. -/
def HostFault.message : HostFault → String
  | .fourPart host => s!"Invalid IPv4 address: {quoted (String.ofList host)}"
  | .colon host => s!"Invalid IPv6 address: {quoted (String.ofList host)}"
  | .name host => s!"Invalid IDNA hostname: {quoted (String.ofList host)}"

/-- Whether a host stands in brackets. -/
def isBracketed (s : List Char) : Bool :=
  2 ≤ s.length && s.head? == some '[' && s.getLast? == some ']'

/-- The form in which a host is sent: a number as it is, without brackets, and a name in lower
    case. -/
def normalHost (host : List Char) : Except HostFault (List Char) :=
  if isFourPart host then
    if isFourPartNumber host then .ok host else .error (.fourPart host)
  else if isBracketed host then
    let inner := (host.drop 1).dropLast
    if isColonNumber inner then .ok inner else .error (.colon host)
  else if host.all fun c => c.toNat < 0x80 then .ok (escapeExcept hostUnsafe (lower host))
  else
    match encodeName (lower host) with
    | some form => .ok form
    | none => .error (.name host)

end SchemaRecords.Web

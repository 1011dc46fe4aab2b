import SchemaRecords.Text.Half
import SchemaRecords.Text.Hex
import SchemaRecords.Text.Printable

/-!
# Quoted text

The form in which a text is shown inside messages and displayed values: between quotes, with
everything that is not printable escaped.

* `quoteMark` -- apostrophes, unless the text holds an apostrophe and no double quote;
* `quoteChar` -- the mark and the backslash take a backslash, line feed, return and tab their
  letters, and any other character that is not printable its number in two, four or eight digits, a
  half that of the half;
* `quoted` -- the whole; `quotedOctets` -- the same for octets, behind a letter: those that are no
  basic character are shown by their numbers;
* `withoutHalves` -- a text without quotes, in which halves alone are shown so.
-/

namespace SchemaRecords.Text

/-- The apostrophe. -/
def apostrophe : Char := '\x27'

/-- The double quote. -/
def doubleQuote : Char := '\x22'

/-- The mark a text is quoted with. -/
def quoteMark (s : List Char) : Char :=
  if s.contains apostrophe && !s.contains doubleQuote then doubleQuote else apostrophe

/-- A character between the given marks. -/
def quoteChar (mark c : Char) : List Char :=
  if c == mark || c == '\\' then ['\\', c]
  else if c == '\n' then ['\\', 'n']
  else if c == '\r' then ['\\', 'r']
  else if c == '\t' then ['\\', 't']
  else if isPrintable c then [c]
  else if number c < 0x100 then '\\' :: 'x' :: hexFixed 2 (number c)
  else if number c < 0x10000 then '\\' :: 'u' :: hexFixed 4 (number c)
  else '\\' :: 'U' :: hexFixed 8 (number c)

/-- The text between quotes. -/
def quoted (s : String) : String :=
  let mark := quoteMark s.toList
  String.ofList (mark :: s.toList.flatMap (quoteChar mark) ++ [mark])

/-- An octet between the given marks. -/
def quoteOctet (mark : Char) (b : UInt8) : List Char :=
  if b.toNat < 0x80 then quoteChar mark (Char.ofNat b.toNat) else '\\' :: 'x' :: hexFixed 2 b.toNat

/-- The octets between quotes. -/
def quotedOctets (octets : List UInt8) : String :=
  let mark := quoteMark (octets.map fun b => Char.ofNat b.toNat)
  String.ofList ('b' :: mark :: octets.flatMap (quoteOctet mark) ++ [mark])

/-- The text with halves shown by their numbers. -/
def withoutHalves (s : String) : String :=
  String.ofList (s.toList.flatMap fun c =>
    if isHalf c then '\\' :: 'u' :: hexFixed 4 (number c) else [c])

end SchemaRecords.Text

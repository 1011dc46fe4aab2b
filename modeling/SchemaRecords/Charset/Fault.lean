import SchemaRecords.Text.Hex

/-!
# Faults of character sets

* `Fault` -- why octets give no text at all, not even one with replacement characters;
* `Fault.message` -- the words for it.
-/

namespace SchemaRecords.Charset

/-- Why octets give no text. The name of the set holds a null character, or its sections are
    numbered in part; the octets do not start with the mark of their order, or there is one outside
    the basic alphabet; the set is none of characters, cannot replace malformed sequences, means
    nothing, or reads characters alone. -/
inductive Fault where
  | nullInName
  | mixedSections (firstIsNumbered : Bool)
  | noMark (form : String)
  | foreignOctet (octet position : Nat)
  | notCharacters
  | notReplacing
  | meaningless
  | charactersOnly
  deriving DecidableEq, Repr

/-- The words for a fault. -/
def Fault.message : Fault → String
  | .nullInName => "embedded null character"
  | .mixedSections true => "'<' not supported between instances of 'NoneType' and 'int'"
  | .mixedSections false => "'<' not supported between instances of 'int' and 'NoneType'"
  | .noMark form => s!"{form} stream does not start with BOM"
  | .foreignOctet octet position =>
      let shown := String.ofList (Text.hexFixed 2 octet)
      s!"'ascii' codec can't decode byte 0x{shown} in position {position}: " ++
        "ordinal not in range(128)"
  | .notCharacters => ""
  | .notReplacing => "Unsupported error handling replace"
  | .meaningless => "undefined encoding"
  | .charactersOnly =>
      "descriptor 'translate' for 'str' objects doesn't apply to a 'bytes' object"

end SchemaRecords.Charset

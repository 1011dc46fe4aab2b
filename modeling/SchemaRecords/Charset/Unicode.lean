import SchemaRecords.Charset.Basic
import SchemaRecords.Text.Utf8

/-!
# Forms of Unicode

* `utf8Step` -- characters of one to four octets;
* `ByteOrder`, `utf16Step`, `utf32Step` -- characters in units of two octets, and of four;
* `unicode` -- the sets of these forms. A form whose order a mark at the start has to tell has no
  replacement characters without that mark.
-/

namespace SchemaRecords.Charset

/-! ## 1. Octets -/

/-- What stands at octets in the form of single octets. -/
def utf8Step (b : Nat) (rest : List UInt8) : Step Unit :=
  match Text.Utf8.next (UInt8.ofNat b) rest with
  | .character c length => .character c.toNat length ()
  | .malformed length _ => .malformed length ()

/-- The octets without the mark at their start. -/
def withoutMark (bytes : List UInt8) : List UInt8 :=
  if bytes.take 3 == [0xEF, 0xBB, 0xBF] then bytes.drop 3 else bytes

/-! ## 2. Units -/

/-- Which octet of a unit comes first. -/
inductive ByteOrder where
  | great
  | small
  deriving DecidableEq, Repr

/-- The number of the octets of a unit. -/
def ByteOrder.value (order : ByteOrder) (unit : List Nat) : Nat :=
  match order with
  | .great => unit.foldl (fun n b => n * 256 + b) 0
  | .small => unit.foldr (fun b n => n * 256 + b) 0

/-- What stands at octets in units of two. -/
def utf16Step (order : ByteOrder) (b : Nat) : List UInt8 → Step Unit
  | [] => .unfinished
  | b' :: rest =>
      let n := order.value [b, b'.toNat]
      if Text.isLow n then .malformed 2 ()
      else if Text.isHigh n then
        match rest with
        | c :: c' :: _ =>
            let m := order.value [c.toNat, c'.toNat]
            if Text.isLow m then .character (Text.pairNumber n m) 4 () else .malformed 2 ()
        | _ => .unfinished
      else .character n 2 ()

/-- What stands at octets in units of four. -/
def utf32Step (order : ByteOrder) (b : Nat) : List UInt8 → Step Unit
  | b' :: c :: c' :: _ =>
      let n := order.value [b, b'.toNat, c.toNat, c'.toNat]
      if n.isValidChar then .character n 4 () else .malformed 4 ()
  | _ => .unfinished

/-! ## 3. Sets -/

/-- The mark that tells the order of units. -/
def orderMark : Nat := 0xFEFF

/-- The order that the mark at the start of octets tells, if there is one. -/
def ByteOrder.ofMark? (width : Nat) (bytes : List UInt8) : Option ByteOrder :=
  let unit := (bytes.take width).map (·.toNat)
  if bytes.length < width then none
  else if ByteOrder.small.value unit == orderMark then some .small
  else if ByteOrder.great.value unit == orderMark then some .great
  else none

/-- A form in units, whose order the mark at the start tells. Without it there are pieces of fewer
    octets than a unit alone, but a faithful text has the small end first. -/
def markedForm (name aliases form : String) (width : Nat)
    (step : ByteOrder → Nat → List UInt8 → Step Unit) : Charset :=
  let unmarked := readPlain (step .small)
  let marked? := fun bytes =>
    (ByteOrder.ofMark? width bytes).map fun order => readPlain (step order) (bytes.drop width)
  { name, aliases
    decode := fun bytes =>
      match marked? bytes with
      | some pieces => .ok pieces
      | none => if bytes.length < width then .ok (unmarked bytes) else .error (.noMark form)
    faithful? := fun bytes => whole? ((marked? bytes).getD (unmarked bytes)) }

/-- The forms of Unicode. -/
def unicode : List Charset :=
  [ total "utf_8" "cp65001 u8 utf utf8 utf8_ucs2 utf8_ucs4" (readPlain utf8Step),
    total "utf_8_sig" "" (readPlain utf8Step ∘ withoutMark),
    markedForm "utf_16" "u16 utf16" "UTF-16" 2 utf16Step,
    total "utf_16_be" "unicodebigunmarked utf_16be" (readPlain (utf16Step .great)),
    total "utf_16_le" "unicodelittleunmarked utf_16le" (readPlain (utf16Step .small)),
    markedForm "utf_32" "u32 utf32" "UTF-32" 4 utf32Step,
    total "utf_32_be" "utf_32be" (readPlain (utf32Step .great)),
    total "utf_32_le" "utf_32le" (readPlain (utf32Step .small)) ]

end SchemaRecords.Charset

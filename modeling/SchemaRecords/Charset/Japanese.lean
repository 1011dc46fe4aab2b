import SchemaRecords.Charset.Jis0208
import SchemaRecords.Charset.Jis0208Numbered
import SchemaRecords.Charset.Jis0212
import SchemaRecords.Charset.Jis0213
import SchemaRecords.Charset.Pair

/-!
# Japanese sets

The Japanese characters stand in rows and cells. An extended set writes both numbers as octets above
the basic alphabet; a shifted set folds two rows into one first octet, so that single octets are
left for the half of a syllabary.

* `Edition` -- the editions of the extension;
* `firstPlane?`, `secondPlane?` -- the characters of a row and a cell in them;
* `extendedStep` -- what stands at an octet of an extended set;
* `shiftedCode?`, `foldedStep` -- the code behind two octets of a shifted set, and what stands
  there;
* `japanese` -- the sets.
-/

namespace SchemaRecords.Charset

/-! ## 1. Planes -/

/-- The editions of the extension. -/
inductive Edition where
  | first
  | second
  deriving DecidableEq, Repr

/-- Whether an edition lacks the character of a code in the first plane. -/
def isLater (edition : Edition) (code : Nat) : Bool :=
  edition == .first && jis0213Later.contains code

/-- The characters of a code in the first plane of the extension. -/
def firstPlane? (edition : Edition) (code : Nat) : Option (List Char) :=
  if isLater edition code then none
  else alone (jis0208.get? code) <|> alone (jis0213.get? code) <|> jis0213Pairs.get? code

/-- The step of two octets with a code: those of a character that the edition lacks are malformed
    together. -/
def planeStep (edition : Edition) (code? : Option Nat) (s : Option (List Char)) : Step Unit :=
  if (code?.map (isLater edition)).getD false then .malformed 2 () else found 2 () s

/-- The one code of the second plane that means another character in the first edition. -/
def changedCode : Nat := 0x7D3B

/-- The characters of a code in the second plane of the extension. -/
def secondPlane? (edition : Edition) (code : Nat) : Option (List Char) :=
  if edition == .first && code == changedCode then some [Char.ofNat 0x9B1D]
  else alone (jis0213Second.get? code)

/-! ## 2. Extended sets -/

/-- The number that turns an octet into a character of the narrow syllabary. -/
def narrowOffset : Nat := 0xFEC0

/-- Whether an octet is a character of the narrow syllabary. -/
def isNarrow (b : Nat) : Bool := 0xA1 ≤ b && b ≤ 0xDF

/-- What stands at an octet of an extended set: one octet announces the narrow syllabary, and
    another one the second plane. -/
def extendedStep (first : Option Nat → Step Unit) (second? : Nat → Option (List Char)) (b : Nat)
    (rest : List UInt8) : Step Unit :=
  if b == 0x8E then
    match rest with
    | [] => .unfinished
    | c :: _ =>
        if isNarrow c.toNat then .character (narrowOffset + c.toNat) 2 () else .malformed 1 ()
  else if b == 0x8F then
    match rest with
    | c :: d :: _ => found 3 () ((highCode? c.toNat d.toNat).bind second?)
    | _ => .unfinished
  else if b < 0x80 then .character b 1 ()
  else pairStep (fun b c => first (highCode? b c)) b rest

/-! ## 3. Shifted sets -/

/-- The row from zero on and the cell behind two octets of a shifted set. -/
def folded? (b c : Nat) : Option (Nat × Nat) :=
  if c < 0x40 || c == 0x7F || 0xFC < c then none
  else
    let half := if b < 0xE0 then b - 0x81 else b - 0xC1
    let place := if c < 0x80 then c - 0x40 else c - 0x41
    some (2 * half + place / 94, place % 94 + 0x21)

/-- The code behind two octets of a shifted set. -/
def shiftedCode? (b c : Nat) : Option Nat :=
  (folded? b c).map fun (row, cell) => codeOf (row + 0x21) cell

/-- The row of the second plane for a row behind the last one of the first. -/
def secondRow (row : Nat) : Nat :=
  if 0x67 ≤ row then row + 7 else if 0x63 ≤ row || row == 0x5F then row - 0x37 else row - 0x3D

/-- The step of two octets of a shifted set with both planes. -/
def bothPlanesStep (edition : Edition) (b c : Nat) : Step Unit :=
  match folded? b c with
  | none => .malformed 1 ()
  | some (row, cell) =>
      if 94 ≤ row then found 2 () (secondPlane? edition (codeOf (secondRow row) cell))
      else if row == 0 && cell == 0x40 then .characters ['\\'] 2 ()
      else
        let code := codeOf (row + 0x21) cell
        planeStep edition (some code) (firstPlane? edition code)

/-- Whether an octet is the first of two in a shifted set. -/
def isFolded (b : Nat) : Bool := (0x81 ≤ b && b ≤ 0x9F) || (0xE0 ≤ b && b ≤ 0xFC)

/-- What stands at an octet of a shifted set with some basic characters. -/
def foldedStep (basic : Nat → Nat) (pair : Nat → Nat → Step Unit) (b : Nat) (rest : List UInt8) :
    Step Unit :=
  if b < 0x80 then .character (basic b) 1 ()
  else if isNarrow b then .character (narrowOffset + b) 1 ()
  else if isFolded b then pairStep pair b rest
  else .malformed 1 ()

/-- The basic characters with a currency sign and an overline. -/
def romanBasic (b : Nat) : Nat := if b == 0x5C then 0xA5 else if b == 0x7E then 0x203E else b

/-! ## 4. The numbered variant -/

/-- The first character for private use in the numbered variant. -/
def privateStart : Nat := 0xE000

/-- The characters behind two octets of the numbered variant. -/
def numbered? (b c : Nat) : Option (List Char) :=
  alone (jisNumbered.get? (codeOf b c)) <|>
    (if b ≤ 0x9F || (0xE0 ≤ b && b ≤ 0xEA) then
      alone ((shiftedCode? b c).bind jis0208.get?)
    else if 0xF0 ≤ b && b ≤ 0xF9 then
      (folded? 0x81 c).map fun (row, cell) =>
        [Char.ofNat (privateStart + 188 * (b - 0xF0) + 94 * row + (cell - 0x21))]
    else none)

/-- What stands at an octet of the numbered variant. -/
def numberedStep (b : Nat) (rest : List UInt8) : Step Unit :=
  if b ≤ 0x80 then .character b 1 ()
  else if b == 0xA0 then .character 0xF8F0 1 ()
  else if isNarrow b then .character (narrowOffset + b) 1 ()
  else if 0xFD ≤ b then .character (0xF8F1 + (b - 0xFD)) 1 ()
  else pairStep (fun b c => found 2 () (numbered? b c)) b rest

/-! ## 5. Sets -/

/-- The extended set of an edition, where one sign is wide. -/
def extendedOf (edition : Edition) : List UInt8 → List Piece :=
  readPlain (extendedStep
    (fun code? => planeStep edition code?
      (if code? == some 0x2232 then some [Char.ofNat 0xFF5E] else code?.bind (firstPlane? edition)))
    (fun code => secondPlane? edition code <|> alone (jis0212.get? code)))

/-- The shifted set of an edition. -/
def shiftedOf (edition : Edition) : List UInt8 → List Piece :=
  readPlain (foldedStep romanBasic (bothPlanesStep edition))

/-- The step of two octets in the shifted set without an extension. -/
def shiftedStep (b c : Nat) : Step Unit :=
  found 2 () (alone ((shiftedCode? b c).bind jis0208.get?))

/-- The Japanese sets of octets without escapes. -/
def japanese : List Charset :=
  [ total "euc_jp" "eucjp u_jis ujis"
      (readPlain (extendedStep (fun code? => found 2 () (alone (code?.bind jis0208.get?)))
        (alone ∘ jis0212.get?))),
    total "euc_jis_2004" "euc_jis2004 eucjis2004 jisx0213" (extendedOf .second),
    total "euc_jisx0213" "eucjisx0213" (extendedOf .first),
    total "shift_jis" "csshiftjis s_jis shiftjis sjis x_mac_japanese"
      (readPlain (foldedStep id shiftedStep)),
    total "shift_jis_2004" "s_jis_2004 shiftjis2004 sjis_2004" (shiftedOf .second),
    total "shift_jisx0213" "s_jisx0213 shiftjisx0213 sjisx0213" (shiftedOf .first),
    total "cp932" "932 ms932 ms_kanji mskanji" (readPlain numberedStep) ]

end SchemaRecords.Charset

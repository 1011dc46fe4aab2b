import SchemaRecords.Text.Case
import SchemaRecords.Text.Composed
import SchemaRecords.Text.Punycode
import SchemaRecords.Text.Quoted
import SchemaRecords.Web.LabelClass

/-!
# Labels of host names

A label is what stands between two dots of a host name. One with characters outside the basic
alphabet is sent as its basic form behind a mark.

* `checkLabel` -- a label is composed, has no hyphen at its ends nor two in the third and fourth
  place, begins with no mark, holds only letters, digits and marks, has those characters that need
  it in their context, and mixes directions only in order;
* `encodeLabel` -- the form in which a label is sent, and `decodeLabel` the label of such a form;
* `LabelFault` -- why a text is no label.
-/

namespace SchemaRecords.Web

open Text

/-! ## 1. Faults -/

/-- A character at a place of a label. -/
structure LabelPlace where
  label : List Char
  character : Char
  index : Nat
  deriving DecidableEq, Repr

/-- Why a text is no label, or no name of labels. -/
inductive LabelFault where
  | empty
  | notComposed
  | inwardHyphens
  | outerHyphen
  | leadingMark
  | joiner (place : LabelPlace)
  | context (place : LabelPlace)
  | character (place : LabelPlace)
  | noDirection (label : List Char)
  | leftward (index : Nat)
  | rightward (index : Nat)
  | mixedDigits
  | badEnd
  | noContent
  | endsInHyphen
  | unreadable
  | tooLong
  | nameTooLong
  deriving DecidableEq, Repr

namespace LabelFault

/-- The number of a character, in at least four digits. -/
def numberText (c : Char) : String :=
  let digits := (Nat.toDigits 16 (Text.number c)).map Char.toUpper
  "U+" ++ String.ofList (List.replicate (4 - digits.length) '0' ++ digits)

/-- A label as it is shown. -/
def shown (label : List Char) : String := Text.quoted (String.ofList label)

/-- The words for a fault. -/
def message : LabelFault → String
  | .empty => "Empty Label"
  | .notComposed => "Label must be in Normalization Form C"
  | .inwardHyphens => "Label has disallowed hyphens in 3rd and 4th position"
  | .outerHyphen => "Label must not start or end with a hyphen"
  | .leadingMark => "Label begins with an illegal combining character"
  | .joiner p =>
      s!"Joiner {numberText p.character} not allowed at position {p.index + 1} in {shown p.label}"
  | .context p =>
      s!"Codepoint {numberText p.character} not allowed at position {p.index + 1} in " ++
        shown p.label
  | .character p =>
      s!"Codepoint {numberText p.character} at position {p.index + 1} of {shown p.label} " ++
        "not allowed"
  | .noDirection label =>
      s!"First codepoint in label {shown label} must be directionality L, R or AL"
  | .rightward index =>
      s!"Invalid direction for codepoint at position {index + 1} in a right-to-left label"
  | .mixedDigits => "Can not mix numeral types in a right-to-left label"
  | .leftward index =>
      s!"Invalid direction for codepoint at position {index + 1} in a left-to-right label"
  | .badEnd => "Label ends with illegal codepoint directionality"
  | .noContent => "Malformed A-label, no Punycode eligible content found"
  | .endsInHyphen => "A-label must not end with a hyphen"
  | .unreadable => "Invalid A-label"
  | .tooLong => "Label too long"
  | .nameTooLong => "Domain too long"

end LabelFault

/-! ## 2. Characters -/

/-- Whether a label may have a character whatever stands around it: capital letters are none. -/
def isLabelLetter (c : Char) : Bool := letterRanges.has c && lowerCase c == [c]

/-- Whether the character is a mark. -/
def isMark (c : Char) : Bool := nonspacingRanges.has c || spacingRanges.has c

/-- Whether joining passes over a character. -/
def isTransparent (c : Char) : Bool :=
  (nonspacingRanges.has c && !stoppingMarks.has c) || passedMarks.has c

/-- The class of the marks that end a syllable and join it to the next. -/
def joiningClass : Nat := 9

/-- Whether the last of some characters, which comes first, is a mark that joins syllables. -/
def followsJoiningMark : List Char → Bool
  | [] => false
  | c :: _ => combiningClass c == joiningClass

/-- Whether the nearest character that joining does not pass over is in one of the classes. -/
def joins (classes : List Ranges) (s : List Char) : Bool :=
  match s.dropWhile isTransparent with
  | [] => false
  | c :: _ => classes.any (·.has c)

/-- Whether a joiner without a width may stand between characters, the nearest of each first: behind
    a mark that joins syllables, and the one that separates also between letters that join. -/
def joinerFits (separates : Bool) (before after : List Char) : Bool :=
  followsJoiningMark before ||
    (separates && joins [leftRanges, dualRanges] before && joins [trailingRanges, dualRanges] after)

/-- Whether one of the digits of the other Arabic kind is in a label. -/
def hasDigitOf (first : Nat) (label : List Char) : Bool :=
  label.any fun c => first ≤ c.toNat && c.toNat ≤ first + 9

/-- Whether a character that needs a context may stand in it, if it is such a character. -/
def contextFits? (label before after : List Char) (c : Char) : Option Bool :=
  let n := c.toNat
  if n == 0xB7 then some (before.head? == some 'l' && after.head? == some 'l')
  else if n == 0x375 then some ((after.head?.map greekRanges.has).getD false)
  else if n == 0x5F3 || n == 0x5F4 then some ((before.head?.map hebrewRanges.has).getD false)
  else if n == 0x30FB then some (label.any kanaHanRanges.has)
  else if 0x660 ≤ n && n ≤ 0x669 then some (!hasDigitOf 0x6F0 label)
  else if 0x6F0 ≤ n && n ≤ 0x6F9 then some (!hasDigitOf 0x660 label)
  else none

/-- Checks the characters of a label from one on, the last one before it first. -/
def checkCharacters (label before : List Char) : List Char → Except LabelFault Unit
  | [] => .ok ()
  | c :: rest => do
      let place : LabelPlace := ⟨label, c, before.length⟩
      if isLabelLetter c then checkCharacters label (c :: before) rest
      else if c.toNat == 0x200C || c.toNat == 0x200D then
        if joinerFits (c.toNat == 0x200C) before rest then
          checkCharacters label (c :: before) rest
        else .error (.joiner place)
      else
        match contextFits? label before rest c with
        | some true => checkCharacters label (c :: before) rest
        | some false => .error (.context place)
        | none => .error (.character place)

/-! ## 3. Directions -/

/-- The directions that count in a label. -/
inductive Direction where
  | left
  | right
  | arabicDigit
  | digit
  | none
  | neutral
  deriving DecidableEq, Repr

/-- The direction of a character that a label may have. -/
def Direction.of (c : Char) : Direction :=
  if nonspacingRanges.has c then .none
  else if rightRanges.has c || arabicRanges.has c then .right
  else if arabicDigitRanges.has c then .arabicDigit
  else if digitRanges.has c then .digit
  else if neutralRanges.has c then .neutral
  else .left

/-- Whether a character of a direction may end a label that runs to the left or to the right; one
    without a direction leaves open whether the one before it may. -/
def mayEnd (leftward : Bool) (before : Bool) : Direction → Bool
  | .none => before
  | .neutral => false
  | .digit => true
  | .right => leftward
  | .arabicDigit => leftward
  | .left => !leftward

/-- Checks the characters of a label that runs to the left: which digits there were, and whether it
    could end. -/
def checkLeftward (index : Nat) (digits : Option Direction) (ends : Bool) :
    List Direction → Except LabelFault Unit
  | [] => if ends then .ok () else .error .badEnd
  | d :: rest =>
      if d == .left then .error (.rightward index)
      else if d == .digit || d == .arabicDigit then
        if digits.isSome && digits != some d then .error .mixedDigits
        else checkLeftward (index + 1) (some d) true rest
      else checkLeftward (index + 1) digits (mayEnd true ends d) rest

/-- Checks the characters of a label that runs to the right. -/
def checkRightward (index : Nat) (ends : Bool) : List Direction → Except LabelFault Unit
  | [] => if ends then .ok () else .error .badEnd
  | d :: rest =>
      if d == .right || d == .arabicDigit then .error (.leftward index)
      else checkRightward (index + 1) (mayEnd false ends d) rest

/-- Checks the directions of a label, which only matter if a part of it runs to the left. -/
def checkDirections (label : List Char) : Except LabelFault Unit :=
  let directions := label.map Direction.of
  if directions.any fun d => d == .right || d == .arabicDigit then
    match directions.head? with
    | some .right => checkLeftward 0 none false directions
    | some .left => checkRightward 0 false directions
    | _ => .error (.noDirection label)
  else .ok ()

/-! ## 4. Labels -/

/-- Checks a label. -/
def checkLabel (label : List Char) : Except LabelFault Unit :=
  match label with
  | [] => .error .empty
  | c :: _ =>
      if !isComposed label then .error .notComposed
      else if (label.drop 2).take 2 == ['-', '-'] then .error .inwardHyphens
      else if c == '-' || label.getLast? == some '-' then .error .outerHyphen
      else if isMark c then .error .leadingMark
      else do
        checkCharacters label [] label
        checkDirections label

/-- The mark of a label in its basic form. -/
def basicMark : List Char := "xn--".toList

/-- The most characters that a label may have when it is sent. -/
def longestLabel : Nat := 63

/-- The label of a form in which it is sent. -/
def decodeLabel (form : List Char) : Except LabelFault (List Char) := do
  let form := form.map Char.toLower
  let label ←
    if form.take basicMark.length == basicMark then
      let rest := form.drop basicMark.length
      if rest.isEmpty then .error .noContent
      else if rest.getLast? == some '-' then .error .endsInHyphen
      else
        match Punycode.decode rest with
        | some label => .ok label
        | none => .error .unreadable
    else .ok form
  checkLabel label
  return label

/-- The form in which a label is sent. -/
def encodeLabel (label : List Char) : Except LabelFault (List Char) := do
  let form ←
    if label.all fun c => c.toNat < 0x80 then do
      let _ ← decodeLabel label
      pure label
    else do
      checkLabel label
      pure (basicMark ++ Punycode.encode label)
  if longestLabel < form.length then .error .tooLong else return form

end SchemaRecords.Web

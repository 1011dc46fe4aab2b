import SchemaRecords.Yaml.Fault

/-!
# Characters with their places

YAML is read by place as much as by character, so the text is first laid out as a list of spots.

* `Spot` -- a character with its index, line and column; the list of a text ends in a spot of the
  null character, which no text holds;
* `isEnd`, `isBreak`, `isGap` -- the null character; the line breaks and it; blanks, those and it;
* `skipBreak` -- one line break at the front, with the text it stands for;
* `atMarker` -- whether a marker of a document's start or end stands at the front.
-/

namespace SchemaRecords.Yaml

/-! ## 1. Spots -/

/-- A character with its place. -/
structure Spot where
  char : Char
  index : Nat
  line : Nat
  column : Nat
  deriving DecidableEq, Repr

/-- The rest of a text. -/
abbrev Spots := List Spot

/-- The null character, which marks the end of a text. -/
def nul : Char := Char.ofNat 0

/-- The byte order mark, which takes no column. -/
def byteOrderMark : Char := Char.ofNat 0xFEFF

/-- The characters that end a line. -/
def isLineEnd (c : Char) : Bool :=
  c == '\n' || c == '\r' || c.toNat == 0x85 || c.toNat == 0x2028 || c.toNat == 0x2029

/-- The spots of characters from a place on. -/
def spotsFrom (index line column : Nat) : List Char → Spots
  | [] => [⟨nul, index, line, column⟩]
  | c :: rest =>
      let spot := ⟨c, index, line, column⟩
      if isLineEnd c && !(c == '\r' && rest.head? == some '\n') then
        spot :: spotsFrom (index + 1) (line + 1) 0 rest
      else if c == byteOrderMark then spot :: spotsFrom (index + 1) line column rest
      else spot :: spotsFrom (index + 1) line (column + 1) rest

/-- The spots of a text. -/
def spots (text : List Char) : Spots := spotsFrom 0 0 0 text

/-! ## 2. What stands at the front -/

/-- The spot at the front. -/
def front : Spots → Spot
  | [] => ⟨nul, 0, 0, 0⟩
  | s :: _ => s

/-- The character at the front. -/
def peek (s : Spots) : Char := (front s).char

/-- The character after some others. -/
def peekAt (n : Nat) (s : Spots) : Char := peek (s.drop n)

/-- The column of the front. -/
def column (s : Spots) : Int := (front s).column

/-- The end of a text. -/
def isEnd (c : Char) : Bool := c == nul

/-- A line break or the end of the text. -/
def isBreak (c : Char) : Bool := isEnd c || isLineEnd c

/-- A blank, a tab, a line break or the end of the text. -/
def isGap (c : Char) : Bool := c == ' ' || c == '\t' || isBreak c

/-- A blank, a line break or the end of the text. -/
def isSpaceOrBreak (c : Char) : Bool := c == ' ' || isBreak c

/-- A blank or a tab. -/
def isWhite (c : Char) : Bool := c == ' ' || c == '\t'

/-- The characters of spots. -/
def chars (s : Spots) : List Char := s.map Spot.char

/-- The spots up to the first character of a class, and those from it on. -/
def upTo (stop : Char → Bool) (s : Spots) : List Char × Spots :=
  (chars (s.takeWhile fun x => !stop x.char), s.dropWhile fun x => !stop x.char)

/-- The text without the blanks at its front. -/
def skipBlanks (s : Spots) : Spots := s.dropWhile fun x => x.char == ' '

/-- The text without a comment at its front. -/
def skipComment (s : Spots) : Spots :=
  if peek s == '#' then s.dropWhile fun x => !isBreak x.char else s

/-- The line break at the front with the text it stands for: a line feed, but the separators of
    lines and paragraphs stand for themselves. -/
def lineBreak? : Spots → Option (Char × Spots)
  | [] => none
  | s :: rest =>
      if s.char == '\r' && peek rest == '\n' then some ('\n', rest.drop 1)
      else if s.char.toNat == 0x2028 || s.char.toNat == 0x2029 then some (s.char, rest)
      else if isLineEnd s.char then some ('\n', rest)
      else none

/-- The text without the line break at its front. -/
def skipBreak (s : Spots) : Spots :=
  match lineBreak? s with
  | some (_, rest) => rest
  | none => s

/-- Whether the three characters at the front are a marker and a gap follows. -/
def isMarker (c : Char) (s : Spots) : Bool :=
  peek s == c && peekAt 1 s == c && peekAt 2 s == c && isGap (peekAt 3 s)

/-- Whether a document starts or ends at the front. -/
def atMarker (s : Spots) : Bool := isMarker '-' s || isMarker '.' s

/-- A letter, digit, hyphen or underscore of the basic alphabet. -/
def isWordChar (c : Char) : Bool := c.isAlphanum || c == '-' || c == '_'

/-- What is left of a line after blanks and a comment must be its end. -/
def endLine (s : Spots) : Except Fault Spots :=
  let s := skipComment (skipBlanks s)
  if isBreak (peek s) then .ok (skipBreak s) else malformed

end SchemaRecords.Yaml

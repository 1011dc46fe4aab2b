import SchemaRecords.Yaml.Spot
import SchemaRecords.Text.Half
import SchemaRecords.Text.Hex

/-!
# Scalars of a YAML text

The five spellings of a scalar. Inside a scalar a line break is folded: alone it is a blank, and of
several the first is dropped.

* `quoted` -- between apostrophes or double quotes, the latter with escapes;
* `plain` -- without marks, up to what ends it in its context;
* `block` -- the lines of an indented block, kept or folded, its end chomped.

Every reader takes a number of steps that bounds it; the length of the text is enough.
-/

namespace SchemaRecords.Yaml

/-! ## 1. Folding -/

/-- A line break between two lines, with the breaks of the empty lines that follow it. -/
def folded (first : Char) (more : List Char) : List Char :=
  if first != '\n' then first :: more
  else if more.isEmpty then [' ']
  else more

/-! ## 2. Quoted scalars -/

/-- The line breaks of empty lines inside quotes, and the white space after them; no document may
    start or end there. -/
def quotedBreaks : Nat → Spots → Except Fault (List Char × Spots)
  | 0, _ => malformed
  | steps + 1, s =>
      if atMarker s then malformed
      else
        let s := s.dropWhile fun x => isWhite x.char
        match lineBreak? s with
        | some (c, rest) => do
            let (more, rest) ← quotedBreaks steps rest
            return (c :: more, rest)
        | none => .ok ([], s)

/-- The white space inside quotes: dropped around line breaks, kept elsewhere. -/
def quotedSpace (s : Spots) : Except Fault (List Char × Spots) :=
  let (white, rest) := upTo (fun c => !isWhite c) s
  if isEnd (peek rest) then malformed
  else
    match lineBreak? rest with
    | some (first, rest) => do
        let (more, rest) ← quotedBreaks (rest.length + 1) rest
        return (folded first more, rest)
    | none => .ok (white, rest)

/-- The character numbers of the short escapes. -/
def shortEscapes : List (Char × Nat) :=
  [('0', 0x0), ('a', 0x7), ('b', 0x8), ('t', 0x9), ('\t', 0x9), ('n', 0xA), ('v', 0xB),
    ('f', 0xC), ('r', 0xD), ('e', 0x1B), (' ', 0x20), ('"', 0x22), ('\\', 0x5C), ('/', 0x2F),
    ('N', 0x85), ('_', 0xA0), ('L', 0x2028), ('P', 0x2029)]

/-- How many hexadecimal digits follow the letter of an escape. -/
def escapeWidth? (c : Char) : Option Nat :=
  if c == 'x' then some 2 else if c == 'u' then some 4 else if c == 'U' then some 8 else none

/-- What an escape stands for, from the character after its backslash on. -/
def escape (s : Spots) : Except Fault (List Char × Spots) :=
  match shortEscapes.lookup (peek s) with
  | some n => .ok ([Char.ofNat n], s.drop 1)
  | none =>
      match escapeWidth? (peek s) with
      | some width =>
          match Text.ofHex? (chars ((s.drop 1).take width)) with
          | some n => if n < 0x110000 then .ok ([Text.ofNumber n], s.drop (width + 1))
              else .error (.noCharacter n)
          | none => malformed
      | none =>
          match lineBreak? s with
          | some (_, rest) => quotedBreaks (rest.length + 1) rest
          | none => malformed

/-- The inside of a quoted scalar, up to its closing mark. -/
def quotedBody (double : Bool) : Nat → Spots → Except Fault (List Char × Spots)
  | 0, _ => malformed
  | steps + 1, s => do
      let c := peek s
      if isGap c then
        let (space, rest) ← quotedSpace s
        let (more, rest) ← quotedBody double steps rest
        return (space ++ more, rest)
      else if double && c == '"' then return ([], s.drop 1)
      else if double && c == '\\' then
        let (image, rest) ← escape (s.drop 1)
        let (more, rest) ← quotedBody double steps rest
        return (image ++ more, rest)
      else if !double && c == Text.apostrophe then
        if peekAt 1 s == Text.apostrophe then
          let (more, rest) ← quotedBody double steps (s.drop 2)
          return (c :: more, rest)
        else return ([], s.drop 1)
      else
        let (more, rest) ← quotedBody double steps (s.drop 1)
        return (c :: more, rest)

/-- A quoted scalar from its opening mark on. -/
def quoted (s : Spots) : Except Fault (String × Spots) := do
  let (text, rest) ← quotedBody (peek s == '"') (s.length + 1) (s.drop 1)
  return (String.ofList text, rest)

/-! ## 3. Plain scalars -/

/-- The marks of flow collections. -/
def isFlowMark (c : Char) : Bool := c == ',' || c == '[' || c == ']' || c == '{' || c == '}'

/-- Whether a plain scalar stops at the front: at a gap, at a colon before a gap, and inside a flow
    collection at its marks. -/
def stopsPlain (flow : Bool) (s : Spots) : Bool :=
  let c := peek s
  isGap c ||
    (c == ':' && (isGap (peekAt 1 s) || (flow && isFlowMark (peekAt 1 s)))) ||
    (flow && (c == '?' || isFlowMark c))

/-- The characters of a plain scalar up to the next gap or its end. -/
def plainWord (flow : Bool) : Spots → List Char × Spots
  | [] => ([], [])
  | s :: rest =>
      if stopsPlain flow (s :: rest) then ([], s :: rest)
      else
        let (word, after) := plainWord flow rest
        (s.char :: word, after)

/-- The line breaks of empty lines inside a plain scalar, and the blanks between them; nothing where
    a document starts or ends. -/
def plainBreaks : Nat → Spots → Option (List Char × Spots) × Spots
  | 0, s => (none, s)
  | steps + 1, s =>
      if atMarker s && (front s).column == 0 then (none, s)
      else
        let t := skipBlanks s
        match lineBreak? t with
        | some (c, rest) =>
            match plainBreaks steps rest with
            | (some (more, after), _) => (some (c :: more, after), after)
            | (none, after) => (none, after)
        | none => (some ([], t), t)

/-- The gap inside a plain scalar: its text, where it ends, and whether it goes over a line. -/
structure PlainGap where
  text : List Char
  rest : Spots
  newLine : Bool

/-- The gap at the front. -/
def plainGap (s : Spots) : PlainGap :=
  let t := skipBlanks s
  match lineBreak? t with
  | some (first, rest) =>
      match plainBreaks (rest.length + 1) rest with
      | (some (more, after), _) => ⟨folded first more, after, true⟩
      | (none, after) => ⟨[], after, true⟩
  | none => ⟨chars (s.takeWhile fun x => x.char == ' '), t, false⟩

/-- The words of a plain scalar with the gaps between them; a gap before its end is dropped. The
    last answer says whether the scalar ended on a new line. -/
def plainBody (flow : Bool) (indent : Int) : Nat → Spots → List Char × Spots × Bool
  | 0, s => ([], s, false)
  | steps + 1, s =>
      let (word, rest) := plainWord flow s
      let gap := plainGap rest
      if gap.text.isEmpty || peek gap.rest == '#' || (!flow && column gap.rest < indent) ||
          stopsPlain flow gap.rest then
        (word, gap.rest, gap.newLine)
      else
        let (more, after, newLine) := plainBody flow indent steps gap.rest
        (word ++ gap.text ++ more, after, newLine)

/-- A plain scalar in a context with an indent. -/
def plain (flow : Bool) (indent : Int) (s : Spots) : String × Spots × Bool :=
  let (text, rest, newLine) := plainBody flow indent (s.length + 1) s
  (String.ofList text, rest, newLine)

/-! ## 4. Block scalars -/

/-- What becomes of the line breaks at the end of a block. -/
inductive Chomping where
  | strip
  | clip
  | keep
  deriving DecidableEq, Repr

/-- The chomping a sign asks for. -/
def chomping? (c : Char) : Option Chomping :=
  if c == '+' then some .keep else if c == '-' then some .strip else none

/-- The indent that a digit asks for; zero is refused. -/
def increment? (c : Char) : Option (Except Fault Nat) :=
  if c.isDigit then
    if c == '0' then some malformed else some (.ok (c.toNat - 0x30))
  else none

/-- The indicators after the mark of a block, in either order, and the rest of their line. -/
def blockHeader (s : Spots) : Except Fault (Chomping × Option Nat × Spots) := do
  match chomping? (peek s) with
  | some chomping =>
      match increment? (peekAt 1 s) with
      | some increment => finish chomping (some (← increment)) (s.drop 2)
      | none => finish chomping none (s.drop 1)
  | none =>
      match increment? (peek s) with
      | some increment =>
          let increment ← increment
          match chomping? (peekAt 1 s) with
          | some chomping => finish chomping (some increment) (s.drop 2)
          | none => finish .clip (some increment) (s.drop 1)
      | none => finish .clip none s
where
  finish (chomping : Chomping) (increment : Option Nat) (s : Spots) :
      Except Fault (Chomping × Option Nat × Spots) := do
    if isSpaceOrBreak (peek s) then return (chomping, increment, ← endLine s) else malformed

/-- The blanks at the front that lie before a column. -/
def skipIndent (indent : Int) (s : Spots) : Spots :=
  s.dropWhile fun x => x.char == ' ' && (x.column : Int) < indent

/-- The line breaks of empty lines in a block, and the indent of the line after them. -/
def blockBreaks (indent : Int) : Nat → Spots → List Char × Spots
  | 0, s => ([], s)
  | steps + 1, s =>
      let s := skipIndent indent s
      match lineBreak? s with
      | some (c, rest) =>
          let (more, rest) := blockBreaks indent steps rest
          (c :: more, rest)
      | none => ([], s)

/-- The line breaks before the first line of a block, the greatest column of the blanks there, and
    the rest. -/
def blockStart : Nat → Spots → List Char × Int × Spots
  | 0, s => ([], 0, s)
  | steps + 1, s =>
      let t := skipBlanks s
      let here : Int := if peek s == ' ' then column t else 0
      match lineBreak? t with
      | some (c, rest) =>
          let (more, deepest, rest) := blockStart steps rest
          (c :: more, max here deepest, rest)
      | none => ([], here, t)

/-- The lines of a block, after the line breaks `breaks`: their text, the break of the last line
    and the breaks after it. A fold joins two lines that do not start with white space. -/
def blockLines (fold : Bool) (indent : Int) :
    Nat → List Char → Spots → List Char × Option Char × List Char × Spots
  | 0, breaks, s => ([], none, breaks, s)
  | steps + 1, breaks, s =>
      if column s != indent || isEnd (peek s) then ([], none, breaks, s)
      else
        let (line, rest) := upTo isBreak s
        let lineEnd := (lineBreak? rest).map (·.1)
        let (more, next) := blockBreaks indent (rest.length + 1) (skipBreak rest)
        if column next == indent && !isEnd (peek next) then
          let joins := fold && lineEnd == some '\n' && !isWhite (peek s) && !isWhite (peek next)
          let joint := if joins then (if more.isEmpty then [' '] else []) else lineEnd.toList
          let (text, last, tail, after) := blockLines fold indent steps more next
          (breaks ++ line ++ joint ++ text, last, tail, after)
        else (breaks ++ line, lineEnd, more, next)

/-- A block scalar from its mark on, inside a collection of some indent. -/
def block (indent : Int) (s : Spots) : Except Fault (String × Spots) := do
  let fold := peek s == '>'
  let (chomping, increment, s) ← blockHeader (s.drop 1)
  let least := max (indent + 1) 1
  let (breaks, indent, s) :=
    match increment with
    | some n =>
        let indent := least + n - 1
        let (breaks, s) := blockBreaks indent (s.length + 1) s
        (breaks, indent, s)
    | none =>
        let (breaks, deepest, s) := blockStart (s.length + 1) s
        (breaks, max least deepest, s)
  let (text, last, tail, rest) := blockLines fold indent (s.length + 1) breaks s
  let ending :=
    match chomping with
    | .strip => []
    | .clip => last.toList
    | .keep => last.toList ++ tail
  return (String.ofList (text ++ ending), rest)

end SchemaRecords.Yaml

import SchemaRecords.Yaml.Token

/-!
# From a text to its tokens

The text is read once from left to right. What indentation and flow collections allow at a place is
kept in a state.

* `Reading` -- the tokens so far, the open indents, the depth of flow collections, whether a key may
  start here, and for each depth the place of a token that will be a key if a colon follows it;
* `Reading.unwind`, `Reading.openAt` -- closing and opening collections by indentation;
* `Reading.step` -- reads one token;
* `tokens` -- all tokens of a text. Where it cannot be read on, a broken token comes last, in place
  of those of which it was not yet known whether they are keys.

A key without a mark lies on one line and has at most 1024 characters.
-/

namespace SchemaRecords.Yaml

/-! ## 1. States -/

/-- A token that becomes a key if a colon follows. At the indent of its collection it must. -/
structure Candidate where
  position : Nat
  required : Bool
  place : Spot

/-- What is known between two tokens; the last token comes first. -/
structure Reading where
  tokens : List Token
  count : Nat
  depth : Nat
  indent : Int
  indents : List Int
  fresh : Bool
  candidates : List (Nat × Candidate)

namespace Reading

/-- The state before the first token. -/
def start : Reading :=
  { tokens := []
    count := 0
    depth := 0
    indent := -1
    indents := []
    fresh := true
    candidates := [] }

/-- Whether the place is inside a flow collection. -/
def inFlow (r : Reading) : Bool := r.depth != 0

/-- One more token. -/
def push (t : Token) (r : Reading) : Reading :=
  { r with tokens := t :: r.tokens, count := r.count + 1 }

/-- A token put in at a position. -/
def insertAt (position : Nat) (t : Token) (r : Reading) : Reading :=
  let later := r.tokens.take (r.count - position)
  let earlier := r.tokens.drop (r.count - position)
  { r with tokens := later ++ t :: earlier, count := r.count + 1 }

/-! ## 2. Indentation -/

/-- Closes the collections that are indented more than a column. -/
def unwindFrom (column : Int) (r : Reading) : List Int → Reading
  | [] => r
  | outer :: rest =>
      if column < r.indent then
        unwindFrom column { r.push .blockEnd with indent := outer, indents := rest } rest
      else r

/-- Closes the collections that are indented more than a column; flow collections do not mind. -/
def unwind (column : Int) (r : Reading) : Reading :=
  if r.inFlow then r else unwindFrom column r r.indents

/-- Whether a collection opens at a column, and the state in which it is open. -/
def openAt (column : Int) (r : Reading) : Bool × Reading :=
  if r.indent < column then (true, { r with indent := column, indents := r.indent :: r.indents })
  else (false, r)

/-- Opens a collection at a column, unless it is open. -/
def openWith (t : Token) (column : Int) (r : Reading) : Reading :=
  match r.openAt column with
  | (true, r) => r.push t
  | (false, r) => r

/-! ## 3. Keys without a mark -/

/-- Drops the candidate of the present depth, which must not be required. -/
def dropCandidate (r : Reading) : Except Fault Reading :=
  match r.candidates.lookup r.depth with
  | some c =>
      if c.required then malformed
      else .ok { r with candidates := r.candidates.filter fun e => e.1 != r.depth }
  | none => .ok r

/-- Whether a place is too far from a candidate. -/
def isStale (place : Spot) (c : Candidate) : Bool :=
  c.place.line != place.line || 1024 < place.index - c.place.index

/-- Drops the candidates that are too far from a place; none of them must be required. -/
def dropStale (place : Spot) (r : Reading) : Except Fault Reading :=
  if r.candidates.any fun e => isStale place e.2 && e.2.required then malformed
  else .ok { r with candidates := r.candidates.filter fun e => !isStale place e.2 }

/-- The next token becomes a candidate where a key may start. -/
def saveCandidate (s : Spots) (r : Reading) : Except Fault Reading :=
  if r.fresh then do
    let r ← r.dropCandidate
    let required := !r.inFlow && r.indent == column s
    return { r with candidates := (r.depth, ⟨r.count, required, front s⟩) :: r.candidates }
  else .ok r

/-! ## 4. Tokens -/

/-- Reads a marker of a document's start or end, or a directive: all open collections close. -/
def breakOff (r : Reading) : Except Fault Reading := do
  let r ← (r.unwind (-1)).dropCandidate
  return { r with fresh := false }

/-- A token that may be a key, and after which none may start. -/
def keep (s : Spots) (r : Reading) : Except Fault Reading := do
  let r ← r.saveCandidate s
  return { r with fresh := false }

/-- Opens a flow collection. -/
def openFlow (t : Token) (s : Spots) (r : Reading) : Except Fault Reading := do
  let r ← r.saveCandidate s
  return { r with depth := r.depth + 1, fresh := true }.push t

/-- Closes a flow collection. -/
def closeFlow (t : Token) (r : Reading) : Except Fault Reading := do
  let r ← r.dropCandidate
  return { r with depth := r.depth - 1, fresh := false }.push t

/-- A mark that stands at the start of an entry or a key; outside flow collections it opens one of
    its kind. -/
def indicator (t opening : Token) (fresh : Bool) (s : Spots) (r : Reading) :
    Except Fault Reading := do
  if !r.inFlow && !r.fresh then malformed
  else
    let r := if r.inFlow then r else r.openWith opening (column s)
    let r ← { r with fresh }.dropCandidate
    return r.push t

/-- A colon: the candidate becomes a key, or else a key of its own has come before. -/
def colon (s : Spots) (r : Reading) : Except Fault Reading :=
  match r.candidates.lookup r.depth with
  | some c =>
      let r := { r with candidates := r.candidates.filter fun e => e.1 != r.depth }
      let r := r.insertAt c.position .key
      let r :=
        if r.inFlow then r
        else
          match r.openAt c.place.column with
          | (true, r) => r.insertAt c.position .blockMapping
          | (false, r) => r
      .ok ({ r with fresh := false }.push .value)
  | none => r.indicator .value .blockMapping (!r.inFlow) s

/-- A plain scalar; on a new line after it a key may start. -/
def plainScalar (s : Spots) (r : Reading) : Except Fault (Reading × Spots) := do
  let r ← r.keep s
  let (text, rest, newLine) := plain r.inFlow (r.indent + 1) s
  return ({ r with fresh := newLine }.push (.scalar true text), rest)

/-- Whether a plain scalar may start at the front. -/
def startsPlain (s : Spots) (r : Reading) : Bool :=
  let c := peek s
  let taken := isGap c || "-?:,[]\x7b\x7d#&*!|>'\"%@\x60".toList.contains c
  !taken || (!isGap (peekAt 1 s) && (c == '-' || (!r.inFlow && (c == '?' || c == ':'))))

/-- Reads the token at the front. -/
def token (s : Spots) (r : Reading) : Except Fault (Reading × Spots) := do
  let c := peek s
  let gap := isGap (peekAt 1 s)
  let lineStart := column s == 0
  if c == '%' && lineStart then
    let r ← r.breakOff
    let (d, rest) ← directive (s.drop 1)
    return (r.push (.directive d), rest)
  else if lineStart && isMarker '-' s then return ((← r.breakOff).push .documentStart, s.drop 3)
  else if lineStart && isMarker '.' s then return ((← r.breakOff).push .documentEnd, s.drop 3)
  else if c == '[' then return (← r.openFlow .flowSequence s, s.drop 1)
  else if c == '{' then return (← r.openFlow .flowMapping s, s.drop 1)
  else if c == ']' then return (← r.closeFlow .flowSequenceEnd, s.drop 1)
  else if c == '}' then return (← r.closeFlow .flowMappingEnd, s.drop 1)
  else if c == ',' then
    let r ← { r with fresh := true }.dropCandidate
    return (r.push .flowEntry, s.drop 1)
  else if c == '-' && gap then
    return (← r.indicator .blockEntry .blockSequence true s, s.drop 1)
  else if c == '?' && (r.inFlow || gap) then
    return (← r.indicator .key .blockMapping (!r.inFlow) s, s.drop 1)
  else if c == ':' && (r.inFlow || gap) then return (← r.colon s, s.drop 1)
  else if c == '*' then
    let r ← r.keep s
    let (word, rest) ← name (s.drop 1)
    return (r.push (.alias word), rest)
  else if c == '&' then
    let r ← r.keep s
    let (word, rest) ← name (s.drop 1)
    return (r.push (.anchor word), rest)
  else if c == '!' then
    let r ← r.keep s
    let (t, rest) ← tag s
    return (r.push (.tag t), rest)
  else if (c == '|' || c == '>') && !r.inFlow then
    let r ← { r with fresh := true }.dropCandidate
    let (text, rest) ← block r.indent s
    return (r.push (.scalar false text), rest)
  else if c == '"' || c == Text.apostrophe then
    let r ← r.keep s
    let (text, rest) ← quoted s
    return (r.push (.scalar false text), rest)
  else if r.startsPlain s then r.plainScalar s
  else malformed

/-! ## 5. Whole texts -/

/-- Skips blanks, comments and line breaks; outside flow collections a key may start on a new
    line. -/
def skip (comment : Bool) (r : Reading) : Spots → Reading × Spots
  | [] => (r, [])
  | s :: rest =>
      if isLineEnd s.char then
        skip false (if r.inFlow then r else { r with fresh := true }) rest
      else if isEnd s.char then (r, s :: rest)
      else if comment || s.char == ' ' then skip comment r rest
      else if s.char == '#' then skip true r rest
      else if s.index == 0 && s.char == byteOrderMark then skip false r rest
      else (r, s :: rest)

/-- Reads the next token; at the end of the text there is none, and all collections close. -/
def step (r : Reading) (s : Spots) : Except Fault (Reading × Option Spots) := do
  let (r, s) := r.skip false s
  let r ← r.dropStale (front s)
  let r := r.unwind (column s)
  if isEnd (peek s) then return (← r.breakOff, none)
  else
    let (r, rest) ← r.token s
    return (r, some rest)

/-- The tokens that are sure at a place, the last one first: those before every candidate. -/
def settled (place : Spot) (r : Reading) : List Token :=
  let pending := r.candidates.filter fun e => !isStale place e.2
  let sure := pending.foldl (fun n e => min n e.2.position) r.count
  r.tokens.drop (r.count - sure)

/-- Reads the tokens of a text; the number of steps bounds their number. -/
def run : Nat → Reading → Spots → List Token
  | 0, r, _ => (.broken .malformed :: r.tokens).reverse
  | steps + 1, r, s =>
      match r.step s with
      | .error fault => (.broken fault :: r.settled (front s)).reverse
      | .ok (r, none) => r.tokens.reverse
      | .ok (r, some rest) => run steps r rest

end Reading

/-- The characters that a text may hold. -/
def isAllowed (c : Char) : Bool :=
  let n := Text.number c
  n == 0x9 || n == 0xA || n == 0xD || (0x20 ≤ n && n ≤ 0x7E) || n == 0x85 ||
    (0xA0 ≤ n && n ≤ 0xD7FF) || (0xE000 ≤ n && n ≤ 0xFFFD) || 0x10000 ≤ n

/-- The tokens of a text; the last one is broken if the text cannot be read to its end. -/
def tokens (text : String) : List Token :=
  let cs := text.toList
  if cs.all isAllowed then Reading.run (cs.length + 2) .start (spots cs)
  else [.broken .malformed]

end SchemaRecords.Yaml

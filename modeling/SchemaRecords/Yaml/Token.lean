import SchemaRecords.Yaml.Scalar
import SchemaRecords.Text.Utf8

/-!
# Tokens of a YAML text

* `Token` -- indicators, names, scalars, and the starts and ends of collections that only the
  indentation shows;
* `WrittenTag` -- a tag as it is written: a handle and the rest, or the whole tag;
* `directive`, `name`, `tag` -- readers for the tokens that have parts.
-/

namespace SchemaRecords.Yaml

/-! ## 1. Tokens -/

/-- A tag as it is written. -/
structure WrittenTag where
  handle : Option String
  rest : String
  deriving DecidableEq, Repr

/-- A directive before a document; all but the two that are known are passed over. -/
inductive Directive where
  | version (major : Nat)
  | tag (handle start : String)
  | other
  deriving DecidableEq, Repr

/-- A token; after a broken one the text cannot be read on. -/
inductive Token where
  | directive (d : Directive)
  | documentStart
  | documentEnd
  | blockSequence
  | blockMapping
  | blockEnd
  | flowSequence
  | flowSequenceEnd
  | flowMapping
  | flowMappingEnd
  | blockEntry
  | flowEntry
  | key
  | value
  | alias (name : String)
  | anchor (name : String)
  | tag (tag : WrittenTag)
  | scalar (plain : Bool) (text : String)
  | broken (fault : Fault)
  deriving DecidableEq, Repr

/-! ## 2. Names and tags -/

/-- The characters that may follow a name. -/
def endsName (c : Char) : Bool :=
  isGap c || c == '?' || c == ':' || c == ',' || c == ']' || c == '}' || c == '%' || c == '@' ||
    c == '\x60'

/-- The name of an anchor or an alias after its mark. -/
def name (s : Spots) : Except Fault (String × Spots) :=
  let (word, rest) := upTo (fun c => !isWordChar c) s
  if word.isEmpty || !endsName (peek rest) then malformed else .ok (String.ofList word, rest)

/-- The octets of the escapes at the front of a tag, a percent sign and two digits each. -/
def tagEscapes : Nat → Spots → Except Fault (List UInt8 × Spots)
  | 0, s => .ok ([], s)
  | steps + 1, s =>
      if peek s == '%' then
        match Text.ofHex? (chars ((s.drop 1).take 2)) with
        | some n => do
            let (more, rest) ← tagEscapes steps (s.drop 3)
            return (UInt8.ofNat n :: more, rest)
        | none => malformed
      else .ok ([], s)

/-- The characters of a tag that stand for themselves. -/
def isTagChar (c : Char) : Bool :=
  c.isAlphanum || "-;/?:@&=+$,_.!~*'()[]".toList.contains c

/-- The text of a tag, with its escapes resolved. -/
def tagText : Nat → Spots → Except Fault (List Char × Spots)
  | 0, s => .ok ([], s)
  | steps + 1, s =>
      if peek s == '%' then do
        let (octets, rest) ← tagEscapes (s.length + 1) s
        match Text.Utf8.decode octets with
        | .error _ => malformed
        | .ok text => do
            let (more, rest) ← tagText steps rest
            return (text.toList ++ more, rest)
      else if isTagChar (peek s) then do
        let (more, rest) ← tagText steps (s.drop 1)
        return (peek s :: more, rest)
      else .ok ([], s)

/-- The text of a tag, which is not empty. -/
def tagWord (s : Spots) : Except Fault (String × Spots) := do
  let (text, rest) ← tagText (s.length + 1) s
  if peek s == '%' || isTagChar (peek s) then return (String.ofList text, rest) else malformed

/-- A handle: an exclamation mark, or a word between two. -/
def tagHandle (s : Spots) : Except Fault (String × Spots) :=
  if peek s != '!' then malformed
  else if peekAt 1 s == ' ' then .ok ("!", s.drop 1)
  else
    let (word, rest) := upTo (fun c => !isWordChar c) (s.drop 1)
    if peek rest == '!' then .ok (String.ofList ('!' :: word ++ ['!']), rest.drop 1)
    else malformed

/-- Whether another exclamation mark follows before the next gap. -/
def hasHandle (s : Spots) : Bool :=
  ((chars s).takeWhile fun c => !isSpaceOrBreak c).contains '!'

/-- A tag from its exclamation mark on. -/
def tag (s : Spots) : Except Fault (WrittenTag × Spots) := do
  let (written, rest) ←
    if peekAt 1 s == '<' then do
      let (text, rest) ← tagWord (s.drop 2)
      if peek rest == '>' then pure (⟨none, text⟩, rest.drop 1) else malformed
    else if isGap (peekAt 1 s) then
      pure ((⟨none, "!"⟩ : WrittenTag), s.drop 1)
    else do
      let (handle, rest) ← if hasHandle (s.drop 1) then tagHandle s else pure ("!", s.drop 1)
      let (text, rest) ← tagWord rest
      pure (⟨some handle, text⟩, rest)
  if isSpaceOrBreak (peek rest) then return (written, rest) else malformed

/-! ## 3. Directives -/

/-- A number of a version. -/
def versionNumber (s : Spots) : Except Fault (Nat × Spots) :=
  let (digits, rest) := upTo (fun c => !c.isDigit) s
  if digits.isEmpty then malformed else .ok (Number.decimalValue digits, rest)

/-- The version after the word for it. -/
def version (s : Spots) : Except Fault (Directive × Spots) := do
  let (major, rest) ← versionNumber (skipBlanks s)
  if peek rest != '.' then malformed
  else
    let (_, rest) ← versionNumber (rest.drop 1)
    if isSpaceOrBreak (peek rest) then return (.version major, rest) else malformed

/-- The handle and the start of a tag after the word for it. -/
def tagDirective (s : Spots) : Except Fault (Directive × Spots) := do
  let (handle, rest) ← tagHandle (skipBlanks s)
  if peek rest != ' ' then malformed
  else
    let (start, rest) ← tagWord (skipBlanks rest)
    if isSpaceOrBreak (peek rest) then return (.tag handle start, rest) else malformed

/-- A directive after its percent sign, with its line. -/
def directive (s : Spots) : Except Fault (Directive × Spots) := do
  let (word, rest) := upTo (fun c => !isWordChar c) s
  if word.isEmpty || !isSpaceOrBreak (peek rest) then malformed
  else
    let word := String.ofList word
    let (d, rest) ←
      if word == "YAML" then version rest
      else if word == "TAG" then tagDirective rest
      else pure (.other, rest.dropWhile fun x => !isBreak x.char)
    return (d, ← endLine rest)

end SchemaRecords.Yaml

import SchemaRecords.Charset.Fault
import SchemaRecords.Number.Numeral
import SchemaRecords.Text.Part
import SchemaRecords.Web.Host

/-!
# Media types

A content type is a media type and parameters behind semicolons. The value of a parameter may be
cut into numbered sections, and it may name the character set of its own octets.

* `items` -- the texts between the semicolons that stand in no quotes;
* `Parameter`, `parameters` -- names and values;
* `Section` -- a section of a value, by the name of its parameter;
* `Word`, `words` -- the values of the parameters, put together from their sections.
-/

namespace SchemaRecords.Web

open Text

/-! ## 1. Items -/

/-- Puts a character in front of the first item. -/
def pushFirst (c : Char) : List (List Char) → List (List Char)
  | [] => [[c]]
  | item :: more => (c :: item) :: more

/-- The items of a text, the present one within quotes or not; a quote behind a backslash does not
    count. -/
def itemsFrom (quoted : Bool) (before : Char) : List Char → List (List Char)
  | [] => [[]]
  | c :: rest =>
      if c == ';' && !quoted then [] :: itemsFrom false ';' rest
      else
        let turns := c == '"' && before != '\\'
        pushFirst c (itemsFrom (quoted != turns) c rest)

/-- The items of a content type. -/
def items (contentType : List Char) : List (List Char) := itemsFrom false ';' contentType

/-! ## 2. Parameters -/

/-- A name and a value. -/
structure Parameter where
  name : List Char
  value : List Char
  deriving DecidableEq, Repr

/-- The parameter that an item writes; one without a value has an empty one. -/
def Parameter.ofItem (item : List Char) : Parameter :=
  match cut '=' item with
  | (name, some value) => ⟨lower (trim name), trim value⟩
  | (name, none) => ⟨trim name, []⟩

/-- The parameters of a content type. The media type itself counts as the first of them. -/
def parameters (contentType : List Char) : List Parameter :=
  (items contentType).map .ofItem

/-- The text in which each pair of backslashes is one of them. -/
def unescapeBackslashes : List Char → List Char
  | '\\' :: '\\' :: rest => '\\' :: unescapeBackslashes rest
  | c :: rest => c :: unescapeBackslashes rest
  | [] => []

/-- The text in which each quote behind a backslash stands alone. -/
def unescapeQuotes : List Char → List Char
  | '\\' :: '"' :: rest => '"' :: unescapeQuotes rest
  | c :: rest => c :: unescapeQuotes rest
  | [] => []

/-- A value without the quotes or the brackets around it. -/
def unwrapped (value : List Char) : List Char :=
  let inner := (value.drop 1).dropLast
  if value.length < 2 then value
  else if value.head? == some '"' && value.getLast? == some '"' then
    unescapeQuotes (unescapeBackslashes inner)
  else if value.head? == some '<' && value.getLast? == some '>' then inner
  else value

/-! ## 3. Sections -/

/-- A section of a value: its number, its text, and whether it holds escapes of octets. -/
structure Section where
  number : Option Nat
  text : List Char
  escaped : Bool
  deriving DecidableEq, Repr

/-- Whether a character may stand in the name of a parameter with sections. -/
def isWordCharacter (c : Char) : Bool := c.isAlphanum || c == '_'

/-- The name of the parameter that a section belongs to, and the section. -/
def Section.ofParameter (p : Parameter) : Option (List Char × Section) :=
  match cut '*' p.name with
  | (_, none) => none
  | (name, some behind) =>
      let escaped := p.name.getLast? == some '*'
      let digits := if escaped then behind.dropLast else behind
      if name.isEmpty || !name.all isWordCharacter then none
      else if behind.isEmpty then some (name, ⟨none, unwrapped p.value, escaped⟩)
      else if digits.isEmpty || !digits.all Number.isDigit then none
      else some (name, ⟨some (Number.decimalValue digits), unwrapped p.value, escaped⟩)

/-- Whether a text comes before another one or is the same, by the numbers of their characters. -/
def textLe : List Char → List Char → Bool
  | [], _ => true
  | _ :: _, [] => false
  | a :: s, b :: t => a.toNat < b.toNat || (a == b && textLe s t)

/-- Whether a section comes before another one or is the same. -/
def Section.le (s t : Section) : Bool :=
  let m := s.number.getD 0
  let n := t.number.getD 0
  if m != n then m < n
  else if s.text != t.text then textLe s.text t.text
  else !s.escaped || t.escaped

/-- The text of a section, its escapes read as the numbers of characters. -/
def Section.read (s : Section) : List Char :=
  if s.escaped then (unescape s.text).map fun b => Char.ofNat b.toNat else s.text

/-- Whether some sections have numbers and some have none, and whether the first of them has one. -/
def mixed? : List Section → Option Bool
  | [] => none
  | s :: rest =>
      if rest.any fun t => t.number.isSome != s.number.isSome then some s.number.isSome else none

/-! ## 4. Values -/

/-- The value of a parameter: a text, or octets as characters with the name of their set. -/
inductive Word where
  | plain (text : List Char)
  | marked (charset octets : List Char)
  deriving DecidableEq, Repr

/-- The value that escaped sections make up: the name of the set, a language and the octets have
    apostrophes between them. -/
def Word.ofOctets (s : List Char) : Word :=
  match cut '\'' s with
  | (charset, some rest) =>
      match cut '\'' rest with
      | (_, some octets) => .marked charset octets
      | (_, none) => .marked [] s
  | (_, none) => .marked [] s

/-- The value that sections make up in the order of their numbers. -/
def Word.ofSections (sections : List Section) : Word :=
  let text := (sections.mergeSort Section.le).flatMap Section.read
  if sections.any (·.escaped) then .ofOctets text else .plain text

/-- Names and the sections that belong to them, in the order in which the names come first. -/
def grouped (sections : List (List Char × Section)) : List (List Char × List Section) :=
  (sections.map (·.1)).eraseDups.map fun name =>
    (name, (sections.filter (·.1 == name)).map (·.2))

/-- The names and values of the parameters: those without sections come first. -/
def words (contentType : List Char) : Except Charset.Fault (List (List Char × Word)) := do
  match parameters contentType with
  | [] => return []
  | first :: rest =>
      let whole := rest.filter fun p => (Section.ofParameter p).isNone
      let groups := grouped (rest.filterMap Section.ofParameter)
      match groups.findSome? fun (_, sections) => mixed? sections with
      | some firstIsNumbered => .error (.mixedSections firstIsNumbered)
      | none =>
          return (first :: whole).map (fun p => (p.name, .plain (unwrapped p.value))) ++
            groups.map fun (name, sections) => (name, .ofSections sections)

/-- The value of the first parameter with a name. -/
def word? (name contentType : List Char) : Except Charset.Fault (Option Word) :=
  (words contentType).map fun words =>
    (words.find? fun (other, _) => lower other == name).map (·.2)

end SchemaRecords.Web

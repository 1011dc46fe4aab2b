import SchemaRecords.Text.CaseClass
import SchemaRecords.Text.CaseTable

/-!
# Upper and lower case

The full case mappings of single characters, read off the case tables; one character may map to
several.

* `upperCase`, `lowerCase` -- the mappings of a character;
* `lower` -- the lower case of a text: that of its characters, but a capital sigma at the end of a
  word becomes the final one.
-/

namespace SchemaRecords.Text

/-- A character through a case table: the special entry, else the run it lies on, else itself. -/
def mapCase (runs : List CaseRun) (specials : List (Nat × List Nat)) (c : Char) : List Char :=
  match specials.lookup c.toNat with
  | some image => image.map Char.ofNat
  | none =>
      match runs.find? (·.covers c.toNat) with
      | some run => [Char.ofNat (c.toNat + run.shift).toNat]
      | none => [c]

/-- The upper case of a character. -/
def upperCase (c : Char) : List Char := mapCase upperRuns upperSpecials c

/-- The lower case of a character. -/
def lowerCase (c : Char) : List Char := mapCase lowerRuns lowerSpecials c

/-- Whether the first character that case does not pass over is a letter with a case. -/
def meetsLetter (s : List Char) : Bool :=
  ((s.dropWhile passedRanges.has).head?.map casedRanges.has).getD false

/-- The capital sigma. -/
def capitalSigma : Char := 'Σ'

/-- The lower case of a character after and before some others, the nearest of each first. -/
def lowerBetween (before : List Char) (c : Char) (after : List Char) : List Char :=
  if c == capitalSigma then
    if meetsLetter before && !meetsLetter after then ['ς'] else ['σ']
  else lowerCase c

/-- The lower case of a text after some characters, the last one first. -/
def lowerAfter (before : List Char) : List Char → List Char
  | [] => []
  | c :: rest => lowerBetween before c rest ++ lowerAfter (c :: before) rest

/-- The lower case of a text. -/
def lower (s : List Char) : List Char := lowerAfter [] s

@[simp] theorem lower_nil : lower [] = [] := rfl

end SchemaRecords.Text

import SchemaRecords.Text.Case

/-!
# Paths

A path is a list of names between slashes, after the slashes at its front.

* `Path.ofText` -- the path a text writes: empty names and single dots say nothing; of the slashes
  at the front one counts, but exactly two count as two;
* `Path.text` -- its text; a path without names is a single dot;
* `Path.parent`, `Path.suffix` -- the path above, and the last name from its last dot on.
-/

namespace SchemaRecords.File

/-- The names of a path and the slashes at its front. -/
structure Path where
  slashes : Nat
  names : List String
  deriving DecidableEq, Repr

namespace Path

/-- The slashes that count of those at the front of a text. -/
def countSlashes (s : List Char) : Nat :=
  let n := (s.takeWhile (· == '/')).length
  if n == 0 then 0 else if n == 2 then 2 else 1

/-- The names of a text that say something. -/
def namesOf (s : List Char) : List String :=
  ((s.splitOn '/').map String.ofList).filter fun name => name != "" && name != "."

/-- The path a text writes. -/
def ofText (text : String) : Path := ⟨countSlashes text.toList, namesOf text.toList⟩

/-- The text of a path. -/
def text (p : Path) : String :=
  let joined := "/".intercalate p.names
  if p.slashes == 0 then (if p.names.isEmpty then "." else joined)
  else String.ofList (List.replicate p.slashes '/') ++ joined

/-- The path above. -/
def parent (p : Path) : Path := { p with names := p.names.dropLast }

/-- The last name, empty if there is none. -/
def name (p : Path) : String := p.names.getLast?.getD ""

/-- The part of a name from its last dot on, unless the dot is its first or last character. -/
def suffixOf (name : List Char) : List Char :=
  let extension := (name.reverse.takeWhile (· != '.')).reverse
  let before := name.length - extension.length
  if extension.isEmpty || before ≤ 1 then [] else '.' :: extension

/-- The part of the last name from its last dot on. -/
def suffix (p : Path) : String := String.ofList (suffixOf p.name.toList)

/-- Whether the suffix is one of the given ones, whatever its case. -/
def hasSuffix (suffixes : List String) (p : Path) : Bool :=
  suffixes.contains (String.ofList (Text.lower p.suffix.toList))

end Path

end SchemaRecords.File

import SchemaRecords.Text.Lines

/-!
# Documentation lines

Documentation is written as comment lines inside markup.

* `escapeMarkup` -- the three characters that markup reserves become entities;
* `documentationLines` -- the lines of the trimmed text, each without the blanks at its end and
  escaped; a text of blanks alone has none.
-/

namespace SchemaRecords.Source

open Text

/-- A character as markup. -/
def escapeMarkup : Char → List Char
  | '&' => "&amp;".toList
  | '<' => "&lt;".toList
  | '>' => "&gt;".toList
  | c => [c]

/-- A line as markup, without the blanks at its end. -/
def documentationLine (line : List Char) : String :=
  String.ofList ((trimEnd line).flatMap escapeMarkup)

/-- The documentation lines of a text. -/
def documentationLines (documentation : Option String) : List String :=
  match documentation with
  | none => []
  | some text => (splitLines (trim text.toList)).map documentationLine

@[simp] theorem documentationLines_none : documentationLines none = [] := rfl

end SchemaRecords.Source

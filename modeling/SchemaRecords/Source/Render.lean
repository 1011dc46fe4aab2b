import SchemaRecords.Source.View

/-!
# The text of a source

The lines of a source, from its view.

* `header` -- the notice, the imports and the namespace;
* `DeclarationView.render` -- an empty line, the documentation, the parameters that have any, and
  the record with one field a line;
* `View.render` -- the text; every line ends in a line feed.
-/

namespace SchemaRecords.Source

/-! ## 1. Parts of a declaration -/

/-- A text between double quotes. -/
def inQuotes (s : String) : String := "\"" ++ s ++ "\""

/-- A comment line of the documentation. -/
def documentLine (line : String) : String := "/// " ++ line

/-- The documentation of a declaration. -/
def summary (lines : List String) : List String :=
  if lines.isEmpty then []
  else documentLine "<summary>" :: lines.map documentLine ++ [documentLine "</summary>"]

/-- The documentation of a field, on one line. -/
def FieldView.parameter (f : FieldView) : List String :=
  if f.lines.isEmpty then []
  else
    let text := " ".intercalate f.lines
    [documentLine ("<param name=" ++ inQuotes f.name ++ ">" ++ text ++ "</param>")]

/-- A field as a parameter of the record. -/
def FieldView.render (f : FieldView) : String :=
  "    [property: JsonPropertyName(" ++ inQuotes f.key ++ ")] " ++ f.type ++ " " ++ f.name

/-- The fields, with a comma after each but the last. -/
def fieldLists : List FieldView → List String
  | [] => []
  | [f] => [f.render]
  | f :: rest => (f.render ++ ",") :: fieldLists rest

/-- The record itself. -/
def DeclarationView.body (d : DeclarationView) : List String :=
  let opening := "public sealed record " ++ d.name
  if d.fields.isEmpty then [opening ++ ";"]
  else (opening ++ "(") :: fieldLists d.fields ++ [");"]

/-- The lines of a declaration. -/
def DeclarationView.render (d : DeclarationView) : List String :=
  "" :: summary d.lines ++ d.fields.flatMap FieldView.parameter ++ d.body

/-! ## 2. The whole -/

/-- The lines before the declarations. -/
def header (space : String) : List String :=
  ["// <auto-generated>",
    "// Generated by dtogen. Do not edit by hand.",
    "// </auto-generated>",
    "",
    "using System;",
    "using System.Collections.Generic;",
    "using System.Text.Json.Serialization;",
    "",
    "namespace " ++ space ++ ";"]

/-- The lines of a source. -/
def View.lines (v : View) : List String :=
  header v.space ++ v.declarations.flatMap DeclarationView.render

/-- Lines as a text. -/
def unlines (lines : List String) : String := String.join (lines.map (· ++ "\n"))

/-- The text of a source. -/
def View.render (v : View) : String := unlines v.lines

/-- The text of declarations in a namespace. -/
def render (space : String) (declarations : List Record.Declaration) : String :=
  (View.ofDeclarations space declarations).render

end SchemaRecords.Source

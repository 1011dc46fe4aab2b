import SchemaRecords.Document.Display
import SchemaRecords.Record.Basic
import SchemaRecords.Source.Documentation

/-!
# Views of a source

All that is written of a list of declarations, as plain texts.

* `View.ofDeclarations` -- the view of declarations in a namespace;
* `View.ofEntries` -- the view that the entries of a mapping describe, and `View.ofValue` that of
  any value. What is missing is reported in the order in which it would be written: of a declaration
  its documentation, its fields, the documentation of each field, its name, and then the key, the
  type and the name of each field;
* `View.toValue` -- the view as a document value.
-/

namespace SchemaRecords.Source

open Document

/-! ## 1. Views -/

/-- What is written of a field. -/
structure FieldView where
  name : String
  key : String
  type : String
  required : Bool
  lines : List String
  deriving DecidableEq, Repr

/-- What is written of a declaration. -/
structure DeclarationView where
  name : String
  lines : List String
  fields : List FieldView
  deriving DecidableEq, Repr

/-- What is written of a source. -/
structure View where
  space : String
  declarations : List DeclarationView
  deriving DecidableEq, Repr

/-- The namespace of a source that is given none. -/
def defaultSpace : String := "Generated"

/-- The view of a field. -/
def FieldView.of (f : Record.Field) : FieldView :=
  ⟨f.name, f.key, f.type.render, f.required, documentationLines f.documentation⟩

/-- The view of a declaration. -/
def DeclarationView.of (d : Record.Declaration) : DeclarationView :=
  ⟨d.name, documentationLines d.documentation, d.fields.map .of⟩

/-- The view of declarations in a namespace. -/
def View.ofDeclarations (space : String) (declarations : List Record.Declaration) : View :=
  ⟨space, declarations.map .of⟩

/-! ## 2. Views as values -/

/-- A list of texts as a value. -/
def texts (lines : List String) : Value := .list (lines.map .text)

/-- A mapping from words. -/
def described (entries : List (String × Value)) : Value :=
  .mapping (entries.map fun (word, value) => (.text word, value))

/-- A field as a value. -/
def FieldView.toValue (f : FieldView) : Value :=
  described [("name", .text f.name), ("json_name", .text f.key), ("type", .text f.type),
    ("required", .scalar (.bool f.required)), ("doc_lines", texts f.lines)]

/-- A declaration as a value. -/
def DeclarationView.toValue (d : DeclarationView) : Value :=
  described [("name", .text d.name), ("doc_lines", texts d.lines),
    ("fields", .list (d.fields.map FieldView.toValue))]

/-- A view as a value. -/
def View.toValue (v : View) : Value :=
  described [("namespace", .text v.space),
    ("declarations", .list (v.declarations.map DeclarationView.toValue)),
    ("declaration_count", .scalar (.int v.declarations.length))]

/-! ## 3. Faults of described views -/

/-- Why a value describes no view: it is no mapping, it has a key that is taken, it lacks a part of
    the whole or of a value of some kind, or a value that should have items has none. -/
inductive ViewFault where
  | notMapping (kind : String)
  | takenKey (key : String)
  | lacksWhole (word : String)
  | lacksPart (kind word : String)
  | noItems (kind : String)
  deriving DecidableEq, Repr

/-- The words for a fault. -/
def ViewFault.message : ViewFault → String
  | .notMapping kind =>
      s!"jinja2.environment.Template.render() argument after ** must be a mapping, not {kind}"
  | .takenKey key => s!"Template.render() got multiple values for argument '{key}'"
  | .lacksWhole word => s!"'{word}' is undefined"
  | .lacksPart "NoneType" word => s!"'None' has no attribute '{word}'"
  | .lacksPart kind word => s!"'{kind} object' has no attribute '{word}'"
  | .noItems kind => s!"'{kind}' object is not iterable"

/-! ## 4. Described views -/

/-- What stands at a word of a value that is a mapping. -/
def part (word : String) (v : Value) : Except ViewFault Value :=
  match v with
  | .mapping entries =>
      match lookup word entries with
      | some value => .ok value
      | none => .error (.lacksPart v.kindName word)
  | v => .error (.lacksPart v.kindName word)

/-- The items of a value: those of a list, the keys of a mapping, the characters of a text. -/
def itemsOf : Value → Except ViewFault (List Value)
  | .list items => .ok items
  | .pair first second => .ok [first, second]
  | .mapping entries => .ok (entries.map fun e => .scalar e.1)
  | .scalar (.text s) => .ok (s.toList.map fun c => .text (String.singleton c))
  | v => .error (.noItems v.kindName)

/-- The displayed items of a value, unless it is nothing, zero or empty. -/
def linesOf (v : Value) : Except ViewFault (List String) :=
  if v.truthy then (itemsOf v).map (·.map Value.display) else .ok []

/-- The documentation of a field; where there is any, the name of the field is asked for. -/
def fieldLines (f : Value) : Except ViewFault (List String) := do
  let lines ← part "doc_lines" f
  if lines.truthy then
    let _ ← part "name" f
  linesOf lines

/-- The field that a value describes, with its documentation. -/
def FieldView.ofValue (f : Value) (lines : List String) : Except ViewFault FieldView := do
  let key ← part "json_name" f
  let type ← part "type" f
  let name ← part "name" f
  let required := ((part "required" f).toOption.getD .null).truthy
  return ⟨name.display, key.display, type.display, required, lines⟩

/-- The declaration that a value describes. -/
def DeclarationView.ofValue (d : Value) : Except ViewFault DeclarationView := do
  let lines ← linesOf (← part "doc_lines" d)
  let fields ← itemsOf (← part "fields" d)
  let documented ← fields.mapM fun f => do return (f, ← fieldLines f)
  let name ← part "name" d
  let views ← documented.mapM fun (f, lines) => FieldView.ofValue f lines
  return ⟨name.display, lines, views⟩

/-- What is written for a namespace that is not described. -/
def undescribedSpace : String := "<class 'jinja2.utils.Namespace'>"

/-- The key that a described view cannot have. -/
def takenKey : String := "self"

/-- The view that the entries of a mapping describe. -/
def View.ofEntries (entries : Entries) : Except ViewFault View := do
  let space := ((lookup "namespace" entries).map Value.display).getD undescribedSpace
  match lookup "declarations" entries with
  | none => .error (.lacksWhole "declarations")
  | some declarations => return ⟨space, ← (← itemsOf declarations).mapM DeclarationView.ofValue⟩

/-- The view that a value describes. -/
def View.ofValue : Value → Except ViewFault View
  | .mapping entries =>
      if (lookup takenKey entries).isSome then .error (.takenKey takenKey)
      else View.ofEntries entries
  | v => .error (.notMapping v.kindName)

end SchemaRecords.Source

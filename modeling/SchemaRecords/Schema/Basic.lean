import SchemaRecords.Document.Value
import SchemaRecords.Text.Case
import SchemaRecords.Text.Lines

/-!
# Schemas

A schema describes a value: its kind, and for arrays and objects the schemas of their parts.

* `Kind` -- the kinds of values; `Kind.ofText` reads a word without regard to blanks around it and
  to case;
* `Schema` -- a node with its keywords, the schema of its items and those of its properties, which
  are in order and have distinct names;
* `Schema.isRecord` -- whether the node gets a declaration of its own.
-/

namespace SchemaRecords

open Document

/-! ## 1. Kinds -/

/-- The kind of value a schema describes. -/
inductive Kind where
  | string
  | integer
  | number
  | boolean
  | array
  | object
  | null
  | unknown
  deriving DecidableEq, Repr

namespace Kind

/-- The word for a kind. -/
def name : Kind → String
  | .string => "string"
  | .integer => "integer"
  | .number => "number"
  | .boolean => "boolean"
  | .array => "array"
  | .object => "object"
  | .null => "null"
  | .unknown => "unknown"

/-- All kinds. -/
def all : List Kind := [.string, .integer, .number, .boolean, .array, .object, .null, .unknown]

/-- The kind a word stands for; a word that stands for none is unknown. -/
def ofText (s : String) : Kind :=
  let word := Text.lower (Text.trim s.toList)
  (all.find? fun k => k.name.toList == word).getD .unknown

/-- The kind a value stands for; only a text stands for one. -/
def ofValue : Value → Kind
  | .scalar (.text s) => ofText s
  | _ => .unknown

end Kind

/-! ## 2. Schemas -/

/-- What a schema says of a value besides the schemas of its parts. -/
structure Keywords where
  kind : Kind
  ref : Option String
  format : Option String
  choices : Option (List Value)
  required : List String
  title : Option String
  description : Option String
  nullable : Bool

/-- A text that is there and not empty. -/
def present? (s : Option String) : Option String := s.filter (· != "")

/-- The keywords of a schema that says nothing. -/
def Keywords.none : Keywords :=
  { kind := .unknown
    ref := Option.none
    format := Option.none
    choices := Option.none
    required := []
    title := Option.none
    description := Option.none
    nullable := false }

/-- The description of a value. -/
inductive Schema where
  | node (keywords : Keywords) (items : Option Schema) (properties : List (String × Schema))

namespace Schema

/-- The schema that says nothing. -/
def any : Schema := .node .none .none []

/-- What a schema says besides the schemas of its parts. -/
def keywords : Schema → Keywords
  | .node k _ _ => k

/-- The schema of the items. -/
def items : Schema → Option Schema
  | .node _ i _ => i

/-- The schemas of the properties, in order. -/
def properties : Schema → List (String × Schema)
  | .node _ _ p => p

/-- The reference a schema is, if it is one. -/
def reference? (s : Schema) : Option String := present? s.keywords.ref

/-- The title of a schema, if it has one. -/
def title? (s : Schema) : Option String := present? s.keywords.title

/-- The documentation of a schema, if it has any. -/
def documentation? (s : Schema) : Option String := present? s.keywords.description

/-- Whether the node gets a declaration of its own: an object that is no reference and has a title
    or a property. -/
def isRecord (s : Schema) : Bool :=
  s.reference?.isNone && s.keywords.kind == .object &&
    (s.title?.isSome || !s.properties.isEmpty)

/-- The schema with another title at the node that lies the given number of arrays down. -/
def retitle (name : String) : Nat → Schema → Schema
  | 0, .node k i p => .node { k with title := some name } i p
  | depth + 1, .node k (some item) p => .node k (some (retitle name depth item)) p
  | _ + 1, .node k .none p => .node k .none p

end Schema

/-! ## 3. Sets and tables of names -/

/-- A name put into an ascending list of distinct names. -/
def insertName (name : String) : List String → List String
  | [] => [name]
  | first :: rest =>
      if name < first then name :: first :: rest
      else if name == first then first :: rest
      else first :: insertName name rest

/-- The names in ascending order, each once. -/
def nameSet (names : List String) : List String := names.foldr insertName []

/-- A table with a name set to a value; a name that is there keeps its place. -/
def assign {α : Type} (name : String) (value : α) : List (String × α) → List (String × α)
  | [] => [(name, value)]
  | (n, v) :: rest =>
      if n == name then (n, value) :: rest else (n, v) :: assign name value rest

/-- The table that the assignments leave, in their order. -/
def assignAll {α : Type} (assignments : List (String × α)) : List (String × α) :=
  assignments.foldl (fun table (name, value) => assign name value table) []

end SchemaRecords

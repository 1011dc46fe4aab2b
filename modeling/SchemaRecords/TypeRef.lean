import SchemaRecords.Schema.Basic
import SchemaRecords.Name.Compose
import SchemaRecords.Text.Part

/-!
# Type references

The type a generated field has: a name, and whether nothing is admitted besides its values.

* `TypeRef.render` -- the spelling; only a value type takes the mark for nothing, all others admit
  it as they are;
* `TypeRef.ofSchema` -- the type of a value with a schema. The context is the name of an object
  that has properties and no title; items have the context with `Item` behind it.
-/

namespace SchemaRecords

/-! ## 1. Types -/

/-- The type of a field. -/
structure TypeRef where
  name : String
  isNullable : Bool
  deriving DecidableEq, Repr

namespace TypeRef

/-- The value types: to admit nothing, they need the mark. -/
def valueTypes : List String :=
  ["int", "double", "bool", "DateTimeOffset", "DateOnly", "TimeOnly", "Guid"]

/-- Whether a type of this name admits nothing as it is and is never marked for it. -/
def isReference (name : String) : Bool :=
  name == "string" || name == "object" || name == "object?" ||
    Text.startsWith "IReadOnly" name || Text.startsWith "Uri" name

/-- The same type with nothing admitted. -/
def optional (t : TypeRef) : TypeRef := { t with isNullable := true }

/-- The spelling of a type. -/
def render (t : TypeRef) : String :=
  if t.isNullable && valueTypes.contains t.name then t.name ++ "?" else t.name

@[simp] theorem optional_optional (t : TypeRef) : t.optional.optional = t.optional := rfl

/-! ## 2. Names of types -/

/-- The type of any value. -/
def anything : String := "object"

/-- The type of nothing. -/
def nothing : String := "object?"

/-- The type of a text. -/
def text : String := "string"

/-- The type of an object of which nothing is known. -/
def dictionary : String := "IReadOnlyDictionary<string, object>"

/-- The type of a list of a type. -/
def listOf (name : String) : String := "IReadOnlyList<" ++ name ++ ">"

/-- The formats of texts that have types of their own. -/
def formats : List (String × String) :=
  [("date-time", "DateTimeOffset"), ("date", "DateOnly"), ("time", "TimeOnly"), ("uri", "Uri"),
    ("uuid", "Guid"), ("guid", "Guid")]

/-- The type of a text with a format, whose case does not matter. -/
def ofFormat (format : Option String) : String :=
  match format with
  | none => text
  | some f => (formats.lookup (String.ofList (Text.lower f.toList))).getD text

/-- The type name of an object without reference. -/
def ofObject (title : Option String) (hasProperties : Bool) (context : Option String) : String :=
  match title, hasProperties, context with
  | some title, _, _ => Name.pascal title
  | none, true, some context => Name.pascal context
  | none, _, _ => dictionary

/-- A type name with the mark of a schema that admits nothing, where it can bear one. -/
def ofName (name : String) (nullable : Bool) : TypeRef :=
  if name == nothing then ⟨name, true⟩ else ⟨name, nullable && !isReference name⟩

/-! ## 3. The type of a value with a schema -/

/-- The context of the items. -/
def itemContext (context : Option String) : Option String := context.map (· ++ Name.items 1)

/-- The type of a value with a schema, in a context that is not empty. -/
def ofSchemaIn (context : Option String) : Schema → TypeRef
  | .node k items properties =>
      let name :=
        match present? k.ref with
        | some ref => Name.ofReference ref
        | none =>
            match k.kind with
            | .string => ofFormat k.format
            | .integer => "int"
            | .number => "double"
            | .boolean => "bool"
            | .array =>
                match items with
                | none => listOf anything
                | some item => listOf (ofSchemaIn (itemContext context) item).render
            | .object => ofObject (present? k.title) (!properties.isEmpty) context
            | .null => nothing
            | .unknown => anything
      ofName name k.nullable

/-- The type of a value with a schema; an empty context is none. -/
def ofSchema (schema : Schema) (context : Option String) : TypeRef :=
  ofSchemaIn (present? context) schema

end TypeRef

end SchemaRecords

import SchemaRecords.Schema.Basic
import SchemaRecords.Document.Display

/-!
# The schema of a document value

* `Keywords.ofEntries` -- what the entries of a mapping say of the value itself; every word but
  the ten that a schema knows is passed over;
* `Schema.ofValue` -- the schema a value stands for. A mapping stands for a schema; below the top
  also a truth value does, for the one that says nothing;
* `SchemaFault` -- why a value stands for none. A `properties` that is no mapping comes before the
  faults of the items, and those before the faults of the properties. A text that cannot be written
  is a fault where the text is made: that of `$ref` and `format` before the items, that of a name
  of a property before the property, all others at the end.
-/

namespace SchemaRecords

open Document

/-! ## 1. Faults -/

/-- Why a value stands for no schema. -/
inductive SchemaFault where
  | notMapping (kind : String)
  | badProperties
  | tooLong (fault : TooLong)
  deriving DecidableEq, Repr

/-- The words for a fault of a schema. -/
def SchemaFault.message : SchemaFault → String
  | .notMapping kind => s!"Schema must be an object, got {kind}"
  | .badProperties => "'properties' must be an object"
  | .tooLong fault => fault.message

/-! ## 2. Keywords -/

/-- The kind a value of `type` stands for, and whether it admits nothing: of a list the first entry
    counts that is not the word for nothing. -/
def kindOf : Value → Kind × Bool
  | .list words =>
      let others := words.filter fun v => !v.isText "null"
      match others with
      | [] => (.null, others.length < words.length)
      | first :: _ => (.ofValue first, others.length < words.length)
  | v => (.ofValue v, false)

/-- The displayed text of a value that is there. -/
def textOf? : Value → Option String
  | .scalar .null => none
  | v => some v.display

/-- The items of a value that is a list. -/
def listOf? : Value → Option (List Value)
  | .list items => some items
  | _ => none

/-- What the entries of a mapping say of the value itself. -/
def Keywords.ofEntries (entries : Entries) : Keywords :=
  let (kind, nullable) := kindOf (get "type" entries)
  { kind
    ref := textOf? (get "$ref" entries)
    format := textOf? (get "format" entries)
    choices := listOf? (get "enum" entries)
    required := nameSet (((listOf? (get "required" entries)).getD []).map Value.display)
    title := textOf? (get "title" entries)
    description := textOf? (get "description" entries)
    nullable := (get "nullable" entries).truthy || nullable }

/-- The values of which a mapping gives the texts before it looks at its items. -/
def textsBefore (entries : Entries) : List Value := [get "$ref" entries, get "format" entries]

/-- The values of which a mapping gives the texts after it has looked at its properties. -/
def textsAfter (entries : Entries) : List Value :=
  (listOf? (get "required" entries)).getD [] ++ [get "title" entries, get "description" entries]

/-- Nothing, if the values can be written. -/
def ensureWritable (values : List Value) : Except SchemaFault Unit :=
  if areWritable values then .ok () else .error (.tooLong ⟨⟩)

/-- Whether the value can stand at `properties`: a mapping, or nothing at all. -/
def admitsProperties : Value → Bool
  | .mapping _ => true
  | v => !v.truthy

/-! ## 3. Schemas -/

mutual

/-- The schema a value below the top stands for. -/
def partOf : Value → Except SchemaFault Schema
  | .scalar (.bool _) => .ok .any
  | .mapping entries =>
      if admitsProperties (get "properties" entries) then do
        ensureWritable (textsBefore entries)
        let items ← itemsOf entries
        let properties ← propertiesOf entries
        ensureWritable (textsAfter entries)
        return .node (.ofEntries entries) items (assignAll properties)
      else .error .badProperties
  | v => .error (.notMapping v.kindName)

/-- The schema of the items: the first entry for them counts, if it is a mapping or a truth
    value. -/
def itemsOf : List (Scalar × Value) → Except SchemaFault (Option Schema)
  | [] => .ok none
  | (key, value) :: rest =>
      if key == .text "items" then
        match value with
        | .scalar (.bool b) => (partOf (.scalar (.bool b))).map some
        | .mapping entries => (partOf (.mapping entries)).map some
        | _ => .ok none
      else itemsOf rest

/-- The schemas of the properties: the first entry for them counts. -/
def propertiesOf : List (Scalar × Value) → Except SchemaFault (List (String × Schema))
  | [] => .ok []
  | (key, value) :: rest =>
      if key == .text "properties" then
        match value with
        | .mapping entries => partsOf entries
        | _ => .ok []
      else propertiesOf rest

/-- The schemas of the entries of a mapping, each under the displayed text of its key. -/
def partsOf : List (Scalar × Value) → Except SchemaFault (List (String × Schema))
  | [] => .ok []
  | (key, value) :: rest => do
      ensureWritable [.scalar key]
      let schema ← partOf value
      let more ← partsOf rest
      return (key.display, schema) :: more

end

/-- The schema a document value stands for. -/
def Schema.ofValue : Value → Except SchemaFault Schema
  | .scalar (.bool b) => .error (.notMapping (Value.scalar (.bool b)).kindName)
  | v => partOf v

end SchemaRecords

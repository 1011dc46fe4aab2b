import SchemaRecords.Document.Display
import SchemaRecords.Json.Writer
import SchemaRecords.Schema.Basic

/-!
# Tools

A tool is a callable operation: a name, a description, and the schemas of what it takes and gives,
as JSON texts.

* `Tool.ofManifest` -- the tools of a manifest, which lists them under `tools`. The first tool that
  is at fault ends the reading; of its faults a missing name comes before a name that was there
  already, and that before metadata that is no mapping;
* `schemaText` -- a schema in a manifest stands as a value or as a JSON text.
-/

namespace SchemaRecords

open Document

/-! ## 1. Tools and their faults -/

/-- A callable operation. -/
structure Tool where
  name : String
  description : String
  parameters : String
  result : String
  metadata : List (String × String)
  deriving DecidableEq, Repr

/-- Why a document is no manifest. -/
inductive ManifestFault where
  | noTools
  | unnamed (entry : String)
  | duplicate (name : String)
  | badMetadata (name : String)
  deriving DecidableEq, Repr

/-- The words for a fault of a manifest. -/
def ManifestFault.message : ManifestFault → String
  | .noTools => "Tool manifest must contain a 'tools' list"
  | .unnamed entry => s!"Tool entry without a name: {entry}"
  | .duplicate name => s!"Duplicate tool name: {name}"
  | .badMetadata name => s!"Tool {name}: 'metadata' must be an object"

/-- Why the tools of a document cannot be read. -/
inductive ToolFault where
  | manifest (fault : ManifestFault)
  | unwritable (fault : Json.Unwritable)
  | tooLong (fault : TooLong)
  deriving DecidableEq, Repr

namespace Tool

/-! ## 2. Parts of an entry -/

/-- The JSON text of a schema in a manifest. -/
def schemaText : Value → Except Json.Unwritable String
  | .scalar .null => .ok "\x7b\x7d"
  | .scalar (.text s) => .ok s
  | v => v.toJson

/-- The displayed text of a value, nothing for one that is nothing, zero or empty. -/
def textOf (v : Value) : String := if v.truthy then v.display else ""

/-- The entries that a value stands for: a mapping its own, and nothing at all none. -/
def entriesOf? : Value → Option Entries
  | .mapping entries => some entries
  | v => if v.truthy then none else some []

/-- The metadata with the displayed texts of its keys and values. -/
def metadataOf (entries : Entries) : List (String × String) :=
  assignAll (entries.map fun (k, v) => (k.display, v.display))

/-- The name of an entry of the manifest, if it has one. -/
def nameOf? : Value → Option String
  | .mapping entries =>
      let name := get "name" entries
      if name.truthy then some name.display else none
  | _ => none

/-- Nothing, if the value can be written. -/
def ensureWritable (v : Value) : Except ToolFault Unit :=
  if v.isWritable then .ok () else .error (.tooLong ⟨⟩)

/-- The tool of an entry of the manifest, after the tools with the given names. -/
def ofEntry (seen : List String) (entry : Value) : Except ToolFault Tool := do
  match nameOf? entry with
  | none => do
      ensureWritable entry
      .error (.manifest (.unnamed entry.literal))
  | some name => do
      ensureWritable (get "name" entry.entries)
      if name ∈ seen then .error (.manifest (.duplicate name))
      else
        match entriesOf? (get "metadata" entry.entries) with
        | none => .error (.manifest (.badMetadata name))
        | some metadata => do
            ensureWritable (get "description" entry.entries)
            let parameters ← (schemaText (get "parameters" entry.entries)).mapError .unwritable
            let result ← (schemaText (get "result" entry.entries)).mapError .unwritable
            ensureWritable (.mapping metadata)
            return {
              name
              description := textOf (get "description" entry.entries)
              parameters
              result
              metadata := metadataOf metadata }

/-! ## 3. The manifest -/

/-- The tools of the entries of a manifest, after the tools with the given names. -/
def ofEntries (seen : List String) : List Value → Except ToolFault (List Tool)
  | [] => .ok []
  | entry :: rest => do
      let tool ← ofEntry seen entry
      let more ← ofEntries (tool.name :: seen) rest
      return tool :: more

/-- The tools of a manifest. -/
def ofManifest (manifest : Entries) : Except ToolFault (List Tool) :=
  match get "tools" manifest with
  | .list entries => ofEntries [] entries
  | _ => .error (.manifest .noTools)

end Tool

end SchemaRecords

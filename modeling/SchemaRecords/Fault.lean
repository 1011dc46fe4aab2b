import SchemaRecords.File.Tree
import SchemaRecords.Json.Fault
import SchemaRecords.Name.Scope
import SchemaRecords.Schema.OfValue
import SchemaRecords.Source.View
import SchemaRecords.Text.Utf8
import SchemaRecords.Tool
import SchemaRecords.Web.Fetch
import SchemaRecords.Yaml.Fault

/-!
# Faults

Everything that can end a run, as causes, and the words for them.

* `DocumentFault` -- why a source gives no document;
* `Fault` -- why a run gives no result; `Fault.isReported` says which of them are told to the user
  as a message.
-/

namespace SchemaRecords

/-! ## 1. Documents -/

/-- Why a source gives no document: it cannot be fetched, read or parsed, or it holds no mapping. -/
inductive DocumentFault where
  | unfetched (reason : String)
  | unreadable (denial : File.Denial)
  | malformedJson (text : String) (cause : Json.Cause) (remaining : Nat)
  | malformedYaml
  | notMapping
  deriving DecidableEq, Repr

/-- The words for the fault of a source. -/
def DocumentFault.message (source : String) : DocumentFault → String
  | .unfetched reason => s!"Cannot fetch {source}: {reason}"
  | .unreadable denial => s!"Cannot read {source}: {denial.message}"
  | .malformedJson text cause remaining =>
      s!"Cannot parse {source}: {(Json.Fault.malformed cause remaining).message text}"
  | .malformedYaml => s!"Cannot parse {source}: {Yaml.Fault.malformed.message}"
  | .notMapping => s!"{source} does not contain an object at the top level"

/-! ## 2. Runs -/

/-- What ended a run. -/
inductive Fault where
  | document (source : String) (fault : DocumentFault)
  | schema (fault : SchemaFault)
  | schemaText (text : String) (cause : Json.Cause) (remaining : Nat)
  | manifest (fault : ManifestFault)
  | manifestText (text : String) (cause : Json.Cause) (remaining : Nat)
  | notManifest (kind : String)
  | clash (fault : Name.Clash)
  | denied (denial : File.Denial)
  | longInteger (digits : Nat)
  | tooLong (fault : Document.TooLong)
  | scalar (fault : Yaml.Fault)
  | encoding (fault : Text.Utf8.Fault)
  | unencodable (refusal : Text.Utf8.Refusal)
  | nullInPath (operation : Option String)
  | address (fault : Web.FetchFault)
  | charset (fault : Charset.Fault)
  | unknownPolicy (word : String)
  | unwritable (fault : Json.Unwritable)
  | view (fault : Source.ViewFault)
  deriving DecidableEq, Repr

namespace Fault

/-- The words for a fault. -/
def message : Fault → String
  | .document source fault => fault.message source
  | .schema fault => fault.message
  | .schemaText text cause remaining =>
      s!"Invalid schema JSON: {(Json.Fault.malformed cause remaining).message text}"
  | .manifest fault => fault.message
  | .manifestText text cause remaining => (Json.Fault.malformed cause remaining).message text
  | .notManifest kind => s!"'{kind}' object has no attribute 'get'"
  | .clash fault => fault.message
  | .denied denial => denial.message
  | .longInteger digits => Number.tooManyDigitsMessage digits
  | .tooLong fault => fault.message
  | .scalar fault => fault.message
  | .encoding fault => fault.message
  | .unencodable refusal => refusal.message
  | .nullInPath none => "embedded null byte"
  | .nullInPath (some operation) => s!"{operation}: embedded null character in path"
  | .address fault => fault.message
  | .charset fault => fault.message
  | .unknownPolicy word => Name.Policy.unknownMessage word
  | .unwritable fault => fault.message
  | .view fault => fault.message

/-- Whether the fault is told to the user as a message: what is wrong with documents, schemas,
    manifests, names and files is. -/
def isReported : Fault → Bool
  | .document .. => true
  | .schema _ => true
  | .schemaText .. => true
  | .manifest _ => true
  | .clash _ => true
  | .denied _ => true
  | _ => false

/-- The fault of a schema as the fault of a run. -/
def ofSchema : SchemaFault → Fault
  | .tooLong fault => .tooLong fault
  | fault => .schema fault

/-- The fault of a tool as the fault of a run. -/
def ofTool : ToolFault → Fault
  | .manifest fault => .manifest fault
  | .unwritable fault => .unwritable fault
  | .tooLong fault => .tooLong fault

/-- The fault of a schema text as the fault of a run. -/
def ofSchemaText (text : String) : Json.Fault → Fault
  | .malformed cause remaining => .schemaText text cause remaining
  | .longInteger digits => .longInteger digits

/-- The fault of a manifest text as the fault of a run. -/
def ofManifestText (text : String) : Json.Fault → Fault
  | .malformed cause remaining => .manifestText text cause remaining
  | .longInteger digits => .longInteger digits

/-- The fault of a JSON document as the fault of a run. -/
def ofJsonDocument (source text : String) : Json.Fault → Fault
  | .malformed cause remaining => .document source (.malformedJson text cause remaining)
  | .longInteger digits => .longInteger digits

/-- The fault of a YAML document as the fault of a run. -/
def ofYamlDocument (source : String) : Yaml.Fault → Fault
  | .malformed => .document source .malformedYaml
  | fault => .scalar fault

/-- The fault of a request as the fault of a run. -/
def ofFetch (source : String) : Web.FetchFault → Fault
  | .failure reason => .document source (.unfetched reason)
  | fault => .address fault

end Fault

end SchemaRecords

import SchemaRecords.Fault
import SchemaRecords.Json.Reader
import SchemaRecords.Record.Emission
import SchemaRecords.Source.Render

/-!
# From texts to declarations and sources

* `Schema.ofJson` -- the schema of a JSON text;
* `declarationsOfSchema`, `declarationsOfTools` -- the declarations of a schema, and those of the
  parameters of tools, which share one scope of names;
* `sourceOfSchema`, `sourceOfTools` -- their text.

The word for the policy is read before the first name is claimed, and the parameters of a tool when
its turn comes.
-/

namespace SchemaRecords

open Name

/-! ## 1. Schemas -/

/-- The schema of a JSON text. -/
def Schema.ofJson (text : String) : Except Fault Schema := do
  let value ← (Document.Value.ofJson text).mapError (.ofSchemaText text)
  (Schema.ofValue value).mapError .ofSchema

/-- The policy a word stands for. -/
def policyOf (word : String) : Except Fault Policy :=
  match Policy.ofName? word with
  | some policy => .ok policy
  | none => .error (.unknownPolicy word)

/-- The declarations of a schema under a root name. -/
def declarationsOfSchema (schema : Schema) (root policy : String) :
    Outcome Fault (List Record.Declaration) := do
  let policy ← Outcome.ofExcept (policyOf policy)
  (Record.ofSchema schema root policy).mapError .clash

/-! ## 2. Tools -/

/-- The root of some declarations with the given documentation, if it has none of its own and the
    given one is not empty. -/
def documentRoot (description : String) : List Record.Declaration → List Record.Declaration
  | [] => []
  | root :: rest =>
      { root with documentation := root.documentation.or (present? (some description)) } :: rest

/-- The declarations of a tool's parameters. -/
def emitTool (tool : Tool) (scope : Scope) : Outcome Fault (List Record.Declaration × Scope) := do
  let schema ← Outcome.ofExcept (Schema.ofJson tool.parameters)
  let (declarations, scope) ←
    (Record.emitRoot schema (ofRequest tool.name) scope).mapError .clash
  return (documentRoot tool.description declarations, scope)

/-- The declarations of the parameters of tools, from a scope on. -/
def emitTools (scope : Scope) : List Tool → Outcome Fault (List Record.Declaration)
  | [] => .done []
  | tool :: rest => do
      let (declarations, scope) ← emitTool tool scope
      let more ← emitTools scope rest
      return declarations ++ more

/-- The declarations of the parameters of tools. -/
def declarationsOfTools (tools : List Tool) (policy : String) :
    Outcome Fault (List Record.Declaration) := do
  let policy ← Outcome.ofExcept (policyOf policy)
  emitTools (.new policy none) tools

/-! ## 3. Sources -/

/-- The source of a schema under a root name. -/
def sourceOfSchema (schema : Schema) (root space policy : String) : Outcome Fault String := do
  let declarations ← declarationsOfSchema schema root policy
  return Source.render space declarations

/-- The source of the parameters of tools. -/
def sourceOfTools (tools : List Tool) (space policy : String) : Outcome Fault String := do
  let declarations ← declarationsOfTools tools policy
  return Source.render space declarations

/-- The tools of a manifest that is a JSON text. -/
def toolsOfJson (text : String) : Except Fault (List Tool) := do
  let value ← (Document.Value.ofJson text).mapError (.ofManifestText text)
  match value with
  | .mapping entries => (Tool.ofManifest entries).mapError .ofTool
  | _ => .error (.notManifest value.kindName)

/-- The text of a source from the JSON text of its view. -/
def sourceOfView (text : String) : Except Fault String := do
  let value ← (Document.Value.ofJson text).mapError (.ofManifestText text)
  let view ← (Source.View.ofValue value).mapError .view
  return view.render

end SchemaRecords

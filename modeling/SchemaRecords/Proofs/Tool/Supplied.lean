import SchemaRecords.Generate
import SchemaRecords.Proofs.Document.Equality
import SchemaRecords.Proofs.Json.Reading
import SchemaRecords.Proofs.Record.Policies

/-!
# Three ways of supplying a schema

The schema of a tool's parameters can stand in a manifest as a value or as a JSON text, or be given
by itself.

* `ListsOne` -- the document of a manifest lists one tool, with a name and parameters alone;
* `ofManifest_listsOne` -- its parameters are the text that the manifest makes of them;
* `sourceOfTools_single` -- one tool has the source of its parameters under the name of a request;
* `supplied_alike` -- **the three ways agree**, in their sources, their notices and their faults.
-/

namespace SchemaRecords

open Document Json Name

/-! ## 1. From texts to sources -/

/-- The source of the tools of a manifest that is a JSON text. -/
def sourceOfManifest (text space policy : String) : Outcome Fault String := do
  let tools ← Outcome.ofExcept (toolsOfJson text)
  sourceOfTools tools space policy

/-- The source of a schema that is a JSON text, under a root name. -/
def sourceOfSchemaText (text root space policy : String) : Outcome Fault String := do
  let schema ← Outcome.ofExcept (Schema.ofJson text)
  sourceOfSchema schema root space policy

/-- The document of a manifest lists one tool, which has a name and parameters and nothing else. -/
def ListsOne (manifest : Value) (name : String) (parameters : Value) : Prop :=
  ∃ entries tool, manifest = .mapping entries ∧ get "tools" entries = .list [.mapping tool] ∧
    get "name" tool = .text name ∧ get "parameters" tool = parameters ∧
    ∀ word ∈ ["description", "result", "metadata"], get word tool = .null

/-- A tool with a name and parameters alone. -/
def Tool.bare (name parameters : String) : Tool := ⟨name, "", parameters, "\x7b\x7d", []⟩

/-! ## 2. One tool -/

/-- The text of a name is its own, and there if the name is not empty. -/
theorem nameOf?_text {name : String} (hname : name ≠ "") {tool : Entries}
    (h : get "name" tool = .text name) : Tool.nameOf? (.mapping tool) = some name := by
  have htruthy : (Value.text name).truthy = true := by
    rw [Value.text, Value.truthy]
    exact bne_iff_ne.mpr hname
  simp only [Tool.nameOf?, h, htruthy, if_true, Value.display_text]

/-- A manifest that lists one tool makes a text of its parameters. -/
theorem ofManifest_listsOne {entries : Entries} {name : String} (hname : name ≠ "")
    {parameters : Value} (h : ListsOne (.mapping entries) name parameters) {text : String}
    (htext : Tool.schemaText parameters = .ok text) :
    Tool.ofManifest entries = .ok [Tool.bare name text] := by
  obtain ⟨_, tool, e, htools, hword, hparameters, hnone⟩ := h
  obtain rfl := Value.mapping.inj e
  have hentry : Tool.ofEntry [] (.mapping tool) = .ok (Tool.bare name text) := by
    have hdescription := hnone "description" (by simp)
    have hresult := hnone "result" (by simp)
    have hmetadata := hnone "metadata" (by simp)
    have hwritable : Tool.ensureWritable (.text name) = .ok () := by
      rw [Tool.ensureWritable, Value.isWritable_text, if_pos rfl]
    unfold Tool.ofEntry
    simp only [nameOf?_text hname hword, Value.entries, hword, hwritable, hdescription, hresult,
      hmetadata, hparameters, htext]
    rfl
  rw [Tool.ofManifest, htools]
  simp only [Tool.ofEntries, hentry]
  rfl

theorem documentRoot_empty (declarations : List Record.Declaration) :
    documentRoot "" declarations = declarations := by
  cases declarations with
  | nil => rfl
  | cons root rest =>
    rw [documentRoot, show present? (some "") = none from rfl, Option.or_none]

/-- One tool has the declarations of its parameters. -/
theorem declarationsOfTools_single (name parameters : String) (policy : Policy) :
    declarationsOfTools [Tool.bare name parameters] policy.name =
      (do
        let schema ← Outcome.ofExcept (Schema.ofJson parameters)
        declarationsOfSchema schema (ofRequest name) policy.name) := by
  simp only [declarationsOfTools_name, declarationsOfSchema_name, emitTools, emitTool, Tool.bare,
    Record.ofSchema, Outcome.mapError_bind, bind_assoc, documentRoot_empty]
  refine bind_congr fun schema => bind_congr fun emitted => ?_
  show (pure (emitted.1 ++ []) : Outcome Fault (List Record.Declaration)) = pure emitted.1
  rw [List.append_nil]

/-- **One tool has the source of its parameters under the name of a request.** -/
theorem sourceOfTools_single (name parameters space : String) (policy : Policy) :
    sourceOfTools [Tool.bare name parameters] space policy.name =
      sourceOfSchemaText parameters (ofRequest name) space policy.name := by
  simp only [sourceOfTools, sourceOfSchemaText, sourceOfSchema, declarationsOfTools_single,
    bind_assoc]

/-- A text of a manifest that lists one tool has the source of its parameters. -/
theorem sourceOfManifest_listsOne {manifest : String} {document : Value}
    (hmanifest : Value.ofJson manifest = .ok document) {name : String} (hname : name ≠ "")
    {parameters : Value} (h : ListsOne document name parameters) {text : String}
    (htext : Tool.schemaText parameters = .ok text) (space : String) (policy : Policy) :
    sourceOfManifest manifest space policy.name =
      sourceOfSchemaText text (ofRequest name) space policy.name := by
  obtain ⟨entries, _, rfl, _⟩ := id h
  have htools : toolsOfJson manifest = .ok [Tool.bare name text] := by
    rw [toolsOfJson, hmanifest]
    show (Tool.ofManifest entries).mapError Fault.ofTool = _
    rw [ofManifest_listsOne hname h htext]
    rfl
  rw [sourceOfManifest, htools]
  exact sourceOfTools_single name text space policy

/-! ## 3. The three ways -/

/-- Two texts of one value have the same source. -/
theorem sourceOfSchemaText_congr {text again : String} {v : Value}
    (h : Value.ofJson text = .ok v) (h' : Value.ofJson again = .ok v) (root space word : String) :
    sourceOfSchemaText again root space word = sourceOfSchemaText text root space word := by
  have hschema : Schema.ofJson again = Schema.ofJson text := by
    rw [Schema.ofJson, Schema.ofJson, h, h']
    rfl
  rw [sourceOfSchemaText, sourceOfSchemaText, hschema]

/-- **Three ways of supplying a tool's schema agree.** A JSON text of a mapping gives the same,
    source or fault, whether a manifest holds its value, or the text itself, or the text is given
    by itself under the name of the tool's request. -/
theorem supplied_alike {text : String} {entries : Entries}
    (htext : Value.ofJson text = .ok (.mapping entries)) {name : String} (hname : name ≠ "")
    {inline quoted : String} {document document' : Value}
    (hinline : Value.ofJson inline = .ok document)
    (hlists : ListsOne document name (.mapping entries))
    (hquoted : Value.ofJson quoted = .ok document')
    (hlists' : ListsOne document' name (.text text)) (space : String) (policy : Policy) :
    sourceOfManifest inline space policy.name =
        sourceOfSchemaText text (ofRequest name) space policy.name ∧
      sourceOfManifest quoted space policy.name =
        sourceOfSchemaText text (ofRequest name) space policy.name := by
  constructor
  · -- the value is written anew, and read again as it was
    obtain ⟨again, hagain, hread⟩ := ofJson_ofJson htext
    have hschema : Tool.schemaText (.mapping entries) = .ok again := hagain
    rw [sourceOfManifest_listsOne hinline hname hlists hschema]
    exact sourceOfSchemaText_congr htext hread _ _ _
  · exact sourceOfManifest_listsOne hquoted hname hlists' rfl space policy

/-- A schema with a property whose name has letters outside the basic alphabet, and a choice of one
    double for it. -/
def gauge : Entries :=
  [(.text "type", .text "object"),
    (.text "properties", .mapping [(.text "größe", .mapping
      [(.text "type", .text "number"),
        (.text "enum", .list [.scalar (.float (.finite false 7205759403792794 (-56)))])])])]

/-- The text of the schema. -/
def gaugeText : String :=
  "\x7b\"type\": \"object\", \"properties\": \x7b\"gr\\u00f6\\u00dfe\": " ++
    "\x7b\"type\": \"number\", \"enum\": [0.1]\x7d\x7d\x7d"

/-- The manifest of a tool that takes the schema. -/
def gaugeManifest (parameters : Value) : Value :=
  .mapping [(.text "tools", .list [.mapping
    [(.text "name", .text "read gauge"), (.text "parameters", parameters)]])]

/-- The text of the manifest, with the text of the parameters in it. -/
def gaugeManifestText (parameters : String) : String :=
  "\x7b\"tools\": [\x7b\"name\": \"read gauge\", \"parameters\": " ++ parameters ++ "\x7d]\x7d"

theorem listsOne_gaugeManifest (parameters : Value) :
    ListsOne (gaugeManifest parameters) "read gauge" parameters :=
  ⟨_, _, rfl, rfl, rfl, rfl, by simp [Document.get, lookup]⟩

theorem supplied_alike_gauge :
    Value.ofJson (gaugeManifestText gaugeText) = .ok (gaugeManifest (.mapping gauge)) ∧
      Value.ofJson (gaugeManifestText (escaped gaugeText)) =
        .ok (gaugeManifest (.text gaugeText)) ∧
      sourceOfManifest (gaugeManifestText gaugeText) "Meters" "suffix" =
        sourceOfSchemaText gaugeText "ReadGaugeRequest" "Meters" "suffix" ∧
      sourceOfManifest (gaugeManifestText (escaped gaugeText)) "Meters" "suffix" =
        sourceOfSchemaText gaugeText "ReadGaugeRequest" "Meters" "suffix" := by
  have htext : Value.ofJson gaugeText = .ok (.mapping gauge) := by decide +kernel
  have hinline : Value.ofJson (gaugeManifestText gaugeText) =
      .ok (gaugeManifest (.mapping gauge)) := by
    decide +kernel
  have hquoted : Value.ofJson (gaugeManifestText (escaped gaugeText)) =
      .ok (gaugeManifest (.text gaugeText)) := by
    decide +kernel
  have hname : "read gauge" ≠ "" := by decide
  have hroot : ofRequest "read gauge" = "ReadGaugeRequest" := by decide +kernel
  have halike := supplied_alike htext hname hinline (listsOne_gaugeManifest _) hquoted
    (listsOne_gaugeManifest _) "Meters" .number
  rw [hroot] at halike
  exact ⟨hinline, hquoted, halike⟩

end SchemaRecords

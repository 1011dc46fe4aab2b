import SchemaRecords.Generate
import SchemaRecords.Proofs.Document.Equality
import SchemaRecords.Proofs.Json.Names
import SchemaRecords.Proofs.Record.Walk
import SchemaRecords.Proofs.Schema.Members
import SchemaRecords.Proofs.Yaml.Regular

/-!
# Required properties of tools

The parameters of a tool go through JSON before they are a schema, and there a key becomes a name
while a value in the list of required ones stays what it is. A schema that is given by itself does
not.

* `exists_rootField` -- a property of a root has a field there, which is required exactly if its key
  is one of the required ones;
* `KeepsRequired` -- what becomes of a key that is a property and required, for a tool and for its
  parameters as a schema by itself;
* `required_kept` -- **every tool of a manifest keeps it**: the field is required exactly if a value
  in the list is displayed as the name of the key, so always for texts, whole numbers and doubles
  with digits;
* `truth_not_required` -- and not for a truth value.
-/

namespace SchemaRecords.Record

open Name

/-! ## 1. Fields of a root -/

/-- The field belongs to the root, which is the first of the declarations. -/
def RootField (declarations : List Declaration) (f : Field) : Prop :=
  ∃ root nested, declarations = root :: nested ∧ f ∈ root.fields

/-- A property of a root has a field there. -/
theorem exists_rootField {schema : Schema} {root : String} {scope scope' : Scope}
    {declarations : List Declaration}
    (h : (emitRoot schema root scope).result = .ok (declarations, scope')) {key : String}
    (hkey : key ∈ schema.properties.map (·.1)) :
    ∃ f, RootField declarations f ∧ f.key = key ∧
      f.required = schema.keywords.required.contains key := by
  obtain ⟨claimed, scope₁, fields, nested, _, hw, rfl⟩ := emitRoot_ok h
  obtain ⟨p, hp, rfl⟩ := List.mem_map.mp hkey
  have hmem : (p.1, schema.keywords.required.contains p.1) ∈
      fields.map fun f => (f.key, f.required) := by
    rw [hw.keys_required]
    exact List.mem_map_of_mem hp
  obtain ⟨f, hf, hsame⟩ := List.mem_map.mp hmem
  obtain ⟨hk, hr⟩ := Prod.mk.inj hsame
  exact ⟨f, ⟨_, _, rfl, hf⟩, hk, hr⟩

end SchemaRecords.Record

namespace SchemaRecords

open Document Json Record

theorem Record.RootField.documentRoot {declarations : List Declaration} {f : Field}
    (h : RootField declarations f) (description : String) :
    RootField (documentRoot description declarations) f := by
  obtain ⟨root, nested, rfl, hf⟩ := h
  exact ⟨_, _, rfl, hf⟩

/-! ## 2. One mapping, by itself and through JSON -/

/-- A key that is a property and required has a required field in the schema of its mapping. -/
theorem exists_required_field {parameters properties : Entries} {required : List Value}
    (hproperties : get "properties" parameters = .mapping properties)
    (hrequired : get "required" parameters = .list required) {key : Scalar}
    (hkey : key ∈ properties.map (·.1)) (hmem : .scalar key ∈ required) {schema : Schema}
    (hschema : Schema.ofValue (.mapping parameters) = .ok schema) {root word : String}
    {declarations : List Declaration}
    (h : (declarationsOfSchema schema root word).result = .ok declarations) :
    ∃ f, RootField declarations f ∧ f.key = key.display ∧ f.required = true := by
  obtain ⟨hkeys, hnames⟩ := ofValue_mapping_ok hschema
  obtain ⟨policy, _, h⟩ := declarationsOfSchema_ok h
  obtain ⟨⟨emitted, scope⟩, he, h⟩ := Outcome.result_bind_eq_ok.mp h
  cases h
  obtain ⟨f, hf, hfkey, hfrequired⟩ := exists_rootField he (hkeys properties hproperties key hkey)
  have hdisplay : key.display ∈ required.map Value.display :=
    List.mem_map.mpr ⟨.scalar key, hmem, rfl⟩
  refine ⟨f, hf, hfkey, ?_⟩
  rw [hfrequired, List.contains_iff_mem]
  exact (hnames required hrequired key.display).mpr hdisplay

/-- The schema of a tool's parameters is that of what is left of them in JSON. -/
theorem ofValue_asJson {v : Value} (hv : v.IsRegular) {text : String} (htext : v.toJson = .ok text)
    {schema : Schema} (h : Schema.ofJson text = .ok schema) :
    Schema.ofValue v.asJson = .ok schema := by
  rw [Schema.ofJson, ofJson_toJson hv htext] at h
  exact mapError_eq_ok.mp h

/-- A key that is a property has a field in the request of a tool, which is required exactly if a
    value in the list of required ones is displayed as the name of the key. -/
theorem exists_request_field {parameters properties : Entries} {required : List Value}
    (hregular : (Value.mapping parameters).IsRegular)
    (hproperties : get "properties" parameters = .mapping properties)
    (hrequired : get "required" parameters = .list required) {key : Scalar}
    (hkey : key ∈ properties.map (·.1)) {tool : Tool}
    (htext : (Value.mapping parameters).toJson = .ok tool.parameters) {scope scope' : Name.Scope}
    {declarations : List Declaration}
    (h : (emitTool tool scope).result = .ok (declarations, scope')) :
    ∃ f, RootField declarations f ∧ f.key = key.jsonName ∧
      (f.required = true ↔ ∃ v ∈ required, v.asJson.display = key.jsonName) := by
  obtain ⟨schema, plain, hschema, he, rfl⟩ := emitTool_ok h
  have hvalue := ofValue_asJson hregular htext hschema
  rw [Value.asJson] at hvalue
  obtain ⟨hkeys, hnames⟩ := ofValue_mapping_ok hvalue
  have hproperties' : get "properties" (ofAssignments (entriesAsJson parameters)) =
      .mapping (ofAssignments (entriesAsJson properties)) := by
    rw [get_asJson ⟨⟨'p', _, rfl, by decide⟩, by simp⟩ hregular, hproperties, Value.asJson]
  have hrequired' : get "required" (ofAssignments (entriesAsJson parameters)) =
      .list (itemsAsJson required) := by
    rw [get_asJson ⟨⟨'r', _, rfl, by decide⟩, by simp⟩ hregular, hrequired, Value.asJson]
  have hname : .text key.jsonName ∈ (ofAssignments (entriesAsJson properties)).map (·.1) := by
    obtain ⟨e, he, rfl⟩ := List.mem_map.mp hkey
    exact (mem_keys_asJson properties _).mpr (List.mem_map_of_mem he)
  obtain ⟨f, hf, hfkey, hfrequired⟩ := exists_rootField he (hkeys _ hproperties' _ hname)
  refine ⟨f, hf.documentRoot tool.description, hfkey, ?_⟩
  rw [hfrequired, List.contains_iff_mem, hnames _ hrequired', itemsAsJson_eq_map, List.map_map,
    List.mem_map]
  rfl

/-! ## 3. Manifests -/

/-- The declarations are those that a run gives the tool, from some scope on. -/
def Tool.Declares (tool : Tool) (declarations : List Declaration) : Prop :=
  ∃ scope scope', (emitTool tool scope).result = .ok (declarations, scope')

/-- What a tool keeps of a key that is a property of its parameters and required there: a field of
    the request, under the name of the key. It is required exactly if a value in the list is
    displayed as that name, which the key itself is unless it is a truth value, nothing, or a double
    without digits. As a schema by themselves, the parameters always keep it. -/
def KeepsRequired (entry : Value) (declarations : List Declaration) : Prop :=
  ∀ parameters properties required,
    get "parameters" entry.entries = .mapping parameters →
    get "properties" parameters = .mapping properties →
    get "required" parameters = .list required →
    ∀ key ∈ properties.map (·.1), .scalar key ∈ required →
      (∃ f, RootField declarations f ∧ f.key = key.jsonName ∧
        (f.required = true ↔ ∃ v ∈ required, v.asJson.display = key.jsonName) ∧
        (key.keepsDisplay = true → f.required = true)) ∧
      ∀ schema root word alone, Schema.ofValue (.mapping parameters) = .ok schema →
        (declarationsOfSchema schema root word).result = .ok alone →
        ∃ f, RootField alone f ∧ f.key = key.display ∧ f.required = true

theorem isRegular_get {entries : Entries} (h : (Value.mapping entries).IsRegular) (word : String) :
    (get word entries).IsRegular := by
  rcases get_eq_null_or_mem word entries with hnull | ⟨e, he, hvalue⟩
  · rw [hnull]
    trivial
  · rw [← hvalue]
    exact (entriesRegular_iff.mp h.2 e he).2

/-- The parameters of a tool are a text of those of its entry. -/
theorem schemaText_ofEntry {seen : List String} {entry : Value} {tool : Tool}
    (h : Tool.ofEntry seen entry = .ok tool) :
    Tool.schemaText (get "parameters" entry.entries) = .ok tool.parameters := by
  unfold Tool.ofEntry at h
  split at h
  · obtain ⟨_, _, h⟩ := bind_eq_ok.mp h
    cases h
  · obtain ⟨_, _, h⟩ := bind_eq_ok.mp h
    split at h
    · cases h
    · split at h
      · cases h
      · obtain ⟨_, _, h⟩ := bind_eq_ok.mp h
        obtain ⟨parameters, hparameters, h⟩ := bind_eq_ok.mp h
        obtain ⟨result, _, h⟩ := bind_eq_ok.mp h
        obtain ⟨_, _, h⟩ := bind_eq_ok.mp h
        obtain rfl := Except.ok.inj h
        exact mapError_eq_ok.mp hparameters

/-- An entry of a manifest keeps what it requires. -/
theorem keepsRequired_ofEntry {entry : Value} (hentry : entry.IsRegular) {seen : List String}
    {tool : Tool} (htool : Tool.ofEntry seen entry = .ok tool) {declarations : List Declaration}
    (h : tool.Declares declarations) : KeepsRequired entry declarations := by
  intro parameters properties required hparameters hproperties hrequired key hkey hmem
  have htext : (Value.mapping parameters).toJson = .ok tool.parameters := by
    have htext := schemaText_ofEntry htool
    rw [hparameters] at htext
    exact htext
  have hregular : (Value.mapping parameters).IsRegular := by
    cases entry with
    | mapping entries => exact hparameters ▸ isRegular_get hentry "parameters"
    | _ => cases hparameters
  refine ⟨?_, fun schema root word alone hschema halone =>
    exists_required_field hproperties hrequired hkey hmem hschema halone⟩
  obtain ⟨scope, scope', h⟩ := h
  obtain ⟨f, hf, hfkey, hfrequired⟩ :=
    exists_request_field hregular hproperties hrequired hkey htext h
  refine ⟨f, hf, hfkey, hfrequired, fun hkeeps => hfrequired.mpr ⟨.scalar key, hmem, ?_⟩⟩
  obtain ⟨name, hname⟩ := exists_keyText htext hproperties hkey
  exact ((jsonName_eq_display_iff hname).mpr hkeeps).symm

/-- The entries of a manifest keep what they require, each in the declarations of its tool. -/
theorem keepsRequired_ofEntries {entries : List Value} (hentries : AreRegular entries)
    {seen : List String} {tools : List Tool} (htools : Tool.ofEntries seen entries = .ok tools)
    {scope : Name.Scope} {declarations : List Declaration}
    (h : (emitTools scope tools).result = .ok declarations) :
    ∃ blocks, declarations = blocks.flatten ∧ List.Forall₂ Tool.Declares tools blocks ∧
      List.Forall₂ KeepsRequired entries blocks := by
  induction entries generalizing seen tools scope declarations with
  | nil =>
    obtain rfl := Except.ok.inj htools
    cases h
    exact ⟨[], rfl, .nil, .nil⟩
  | cons entry rest ih =>
    rw [Tool.ofEntries] at htools
    obtain ⟨tool, htool, htools⟩ := bind_eq_ok.mp htools
    obtain ⟨others, hothers, htools⟩ := bind_eq_ok.mp htools
    obtain rfl := Except.ok.inj htools
    obtain ⟨first, scope₁, more, hfirst, hmore, rfl⟩ := emitTools_cons_ok h
    obtain ⟨blocks, rfl, hdeclares, hkeeps⟩ := ih hentries.2 hothers hmore
    have hdeclared : tool.Declares first := ⟨scope, scope₁, hfirst⟩
    exact ⟨first :: blocks, rfl, .cons hdeclared hdeclares,
      .cons (keepsRequired_ofEntry hentries.1 htool hdeclared) hkeeps⟩

/-- **Every tool of a manifest keeps what its parameters require**, as far as their keys are
    displayed as their names. The declarations are those of the tools, one tool after the other. -/
theorem required_kept {text : String} {manifest : Entries}
    (hmanifest : Value.ofYaml text = .ok (.mapping manifest)) {tools : List Tool}
    (htools : Tool.ofManifest manifest = .ok tools) {word : String}
    {declarations : List Declaration}
    (h : (declarationsOfTools tools word).result = .ok declarations) :
    ∃ entries blocks, get "tools" manifest = .list entries ∧ declarations = blocks.flatten ∧
      List.Forall₂ Tool.Declares tools blocks ∧ List.Forall₂ KeepsRequired entries blocks := by
  have hregular := Yaml.isRegular_ofYaml hmanifest
  unfold Tool.ofManifest at htools
  split at htools
  · rename_i entries hentries
    have hlist : (Value.list entries).IsRegular := hentries ▸ isRegular_get hregular "tools"
    unfold declarationsOfTools at h
    obtain ⟨policy, _, h⟩ := Outcome.result_bind_eq_ok.mp h
    obtain ⟨blocks, hflat, hdeclares, hkeeps⟩ := keepsRequired_ofEntries hlist htools h
    exact ⟨entries, blocks, hentries, hflat, hdeclares, hkeeps⟩
  · cases htools

/-- A tool whose parameters have the keys `on`, which is a truth value, and `200`, which is a whole
    number, and require both. -/
def switchText : String :=
  "tools:\n- name: switch\n  parameters:\n    type: object\n    properties:\n" ++
    "      on: \x7btype: boolean\x7d\n      200: \x7btype: integer\x7d\n" ++
    "    required: [on, 200]\n"

/-- The properties of its parameters. -/
def switchProperties : Entries :=
  [(.bool true, .mapping [(.text "type", .text "boolean")]),
    (.int 200, .mapping [(.text "type", .text "integer")])]

/-- The values of which its parameters say that they are required. -/
def switchRequired : List Value := [.scalar (.bool true), .scalar (.int 200)]

/-- Its parameters. -/
def switchParameters : Entries :=
  [(.text "type", .text "object"), (.text "properties", .mapping switchProperties),
    (.text "required", .list switchRequired)]

/-- Its entry. -/
def switchEntry : Value :=
  .mapping [(.text "name", .text "switch"), (.text "parameters", .mapping switchParameters)]

/-- Its parameters in JSON. -/
def switchTool : Tool :=
  ⟨"switch", "",
    "\x7b\"type\": \"object\", \"properties\": \x7b\"true\": \x7b\"type\": \"boolean\"\x7d, " ++
      "\"200\": \x7b\"type\": \"integer\"\x7d\x7d, \"required\": [true, 200]\x7d", "\x7b\x7d", []⟩

/-- Its request. -/
def switchRequest : Declaration :=
  ⟨"SwitchRequest", none,
    [⟨"True", "true", ⟨"bool", true⟩, none, false⟩, ⟨"200", "200", ⟨"int", false⟩, none, true⟩]⟩

/-- Its parameters as a schema by themselves. -/
def switchRecord : Declaration :=
  ⟨"Switch", none,
    [⟨"True", "True", ⟨"bool", false⟩, none, true⟩, ⟨"200", "200", ⟨"int", false⟩, none, true⟩]⟩

/-- The manifest with the tool is loaded, read and generated. -/
theorem switch_loaded :
    Value.ofYaml switchText = .ok (.mapping [(.text "tools", .list [switchEntry])]) ∧
      Tool.ofManifest [(.text "tools", .list [switchEntry])] = .ok [switchTool] ∧
      (declarationsOfTools [switchTool] "error").result = .ok [switchRequest] := by
  refine ⟨?_, ?_, ?_⟩ <;> decide +kernel

/-- The parameters, as a schema by themselves, are read and generated. -/
theorem switch_alone :
    ∃ schema, Schema.ofValue (.mapping switchParameters) = .ok schema ∧
      (declarationsOfSchema schema "Switch" "error").result = .ok [switchRecord] := by
  have hrun : (do
      let schema ← Outcome.ofExcept
        ((Schema.ofValue (.mapping switchParameters)).mapError Fault.ofSchema)
      declarationsOfSchema schema "Switch" "error").result = .ok [switchRecord] := by
    decide +kernel
  obtain ⟨schema, hschema, hdeclared⟩ := Outcome.result_bind_eq_ok.mp hrun
  rw [Outcome.result_ofExcept] at hschema
  exact ⟨schema, mapError_eq_ok.mp hschema, hdeclared⟩

theorem required_kept_switch :
    Value.ofYaml switchText = .ok (.mapping [(.text "tools", .list [switchEntry])]) ∧
      Tool.ofManifest [(.text "tools", .list [switchEntry])] = .ok [switchTool] ∧
      (declarationsOfTools [switchTool] "error").result = .ok [switchRequest] ∧
      ∃ f, RootField [switchRequest] f ∧ f.key = "200" ∧ f.required = true := by
  obtain ⟨hloaded, hread, hgenerated⟩ := switch_loaded
  obtain ⟨entries, blocks, hentries, hflat, _, hblocks⟩ :=
    required_kept hloaded hread hgenerated
  obtain rfl : [switchEntry] = entries := Value.list.inj hentries
  obtain ⟨block, _, hkeeps, hrest, rfl⟩ := List.forall₂_cons_left_iff.mp hblocks
  obtain rfl := List.forall₂_nil_left_iff.mp hrest
  rw [List.flatten_cons, List.flatten_nil, List.append_nil] at hflat
  refine ⟨hloaded, hread, hgenerated, ?_⟩
  rw [hflat]
  obtain ⟨⟨f, hf, hkey, _, hrequired⟩, _⟩ :=
    hkeeps switchParameters switchProperties switchRequired rfl rfl rfl (.int 200) (by decide)
      (by decide)
  have hname : (Scalar.int 200).jsonName = "200" := by decide +kernel
  exact ⟨f, hf, hkey.trans hname, hrequired rfl⟩

/-- **A truth value that is required is not**: the key `on` is a property and in the list, and no
    field of the request but that of `200` is required, while both are without the manifest. -/
theorem truth_not_required :
    (Value.ofYaml switchText = .ok (.mapping [(.text "tools", .list [switchEntry])]) ∧
      Tool.ofManifest [(.text "tools", .list [switchEntry])] = .ok [switchTool] ∧
      (declarationsOfTools [switchTool] "error").result = .ok [switchRequest]) ∧
    (.bool true ∈ switchProperties.map (·.1) ∧ .scalar (.bool true) ∈ switchRequired) ∧
    (∀ f, RootField [switchRequest] f → f.required = true → f.key = "200") ∧
    ∃ schema, Schema.ofValue (.mapping switchParameters) = .ok schema ∧
      (declarationsOfSchema schema "Switch" "error").result = .ok [switchRecord] ∧
      ∀ f ∈ switchRecord.fields, f.required = true := by
  refine ⟨switch_loaded, ⟨by decide, by decide⟩, ?_, ?_⟩
  · rintro f ⟨root, nested, hroot, hf⟩ hrequired
    obtain ⟨rfl, rfl⟩ := List.cons.inj hroot
    have hall : ∀ f ∈ switchRequest.fields, f.required = true → f.key = "200" := by decide
    exact hall f hf hrequired
  · obtain ⟨schema, hschema, hdeclared⟩ := switch_alone
    exact ⟨schema, hschema, hdeclared, by decide⟩

end SchemaRecords

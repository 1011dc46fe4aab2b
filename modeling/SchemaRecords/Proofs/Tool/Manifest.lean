import Mathlib
import SchemaRecords.Generate
import SchemaRecords.Proofs.Load.Writable
import SchemaRecords.Proofs.Schema.Members

/-!
# Tools that a manifest lists

A manifest is read entry by entry, and the names that were there are kept.

* `NamedAs`, `MetadataFits`, `Fit` -- entries that a manifest can list: each with a name of its
  own, and with a mapping for its metadata;
* `Offence` -- what is wrong with an entry behind others, and which fault of it comes first;
* `ContractOf` -- what a tool has of its entry;
* `ofEntry_cases` -- an entry is a tool or the first that is at fault; from it, along the entries,
  `ofEntries_cases`;
* `tools_of_manifest` -- **a manifest in JSON has tools exactly if all its entries fit; they are
  its entries, one by one, and otherwise the first entry that is at fault ends the reading**.
-/

namespace SchemaRecords

open Document Json

namespace Tool

/-! ## 1. Entries of a manifest -/

/-- The name of an entry: the displayed text of what stands at `name`, which must be something. -/
def NamedAs (entry : Value) (name : String) : Prop :=
  ∃ fields, entry = .mapping fields ∧ (get "name" fields).truthy = true ∧
    (get "name" fields).display = name

/-- The metadata of an entry is a mapping, or nothing, zero or empty. -/
def MetadataFits (entry : Value) : Prop :=
  (get "metadata" entry.entries).truthy = false ∨
    ∃ metadata, get "metadata" entry.entries = .mapping metadata

/-- Entries that tools can be made of. -/
structure Fit (entries : List Value) : Prop where
  named : ∀ entry ∈ entries, ∃ name, NamedAs entry name
  distinct : entries.Pairwise fun first second => ∀ name, NamedAs first name → ¬NamedAs second name
  metadata : ∀ entry ∈ entries, MetadataFits entry

/-- What is wrong with an entry behind others. That it has no name comes before that one of the
    others has the same, and that before its metadata. -/
inductive Offence (before : List Value) (entry : Value) : ManifestFault → Prop where
  | unnamed : (∀ name, ¬NamedAs entry name) → Offence before entry (.unnamed entry.literal)
  | duplicate {name : String} : NamedAs entry name → (∃ other ∈ before, NamedAs other name) →
      Offence before entry (.duplicate name)
  | badMetadata {name : String} : NamedAs entry name → (∀ other ∈ before, ¬NamedAs other name) →
      ¬MetadataFits entry → Offence before entry (.badMetadata name)

theorem NamedAs.unique {entry : Value} {name other : String} (h : NamedAs entry name)
    (h' : NamedAs entry other) : name = other := by
  obtain ⟨fields, rfl, _, rfl⟩ := h
  obtain ⟨_, he, _, rfl⟩ := h'
  rw [Value.mapping.inj he]

theorem fit_nil : Fit [] := ⟨nofun, List.Pairwise.nil, nofun⟩

/-- One more entry fits if there is nothing wrong with it behind the others. -/
theorem Fit.concat {before : List Value} (h : Fit before) {entry : Value} {name : String}
    (hname : NamedAs entry name) (hnew : ∀ other ∈ before, ¬NamedAs other name)
    (hmetadata : MetadataFits entry) : Fit (before ++ [entry]) := by
  constructor
  · exact List.forall_mem_append.mpr ⟨h.named, List.forall_mem_singleton.mpr ⟨name, hname⟩⟩
  · refine List.pairwise_append.mpr ⟨h.distinct, List.pairwise_singleton _ _, ?_⟩
    intro other hother last hlast word hword hlastWord
    rw [List.mem_singleton.mp hlast] at hlastWord
    rw [← hname.unique hlastWord] at hword
    exact hnew other hother hword
  · exact List.forall_mem_append.mpr ⟨h.metadata, List.forall_mem_singleton.mpr hmetadata⟩

/-- Among entries that fit none is at fault. -/
theorem Fit.not_offence {before after : List Value} {entry : Value}
    (h : Fit (before ++ entry :: after)) {cause : ManifestFault} :
    ¬Offence before entry cause := by
  have hentry : entry ∈ before ++ entry :: after := by simp
  intro hoffence
  cases hoffence with
  | unnamed hno =>
    obtain ⟨name, hname⟩ := h.named entry hentry
    exact hno name hname
  | duplicate hname hseen =>
    obtain ⟨other, hother, hsame⟩ := hseen
    have hdistinct := (List.pairwise_append.mp h.distinct).2.2 other hother entry
    exact hdistinct List.mem_cons_self _ hsame hname
  | badMetadata _ _ hbad => exact hbad (h.metadata entry hentry)

/-! ## 2. Tools of entries -/

/-- The text of a schema in a manifest: a text is its own, and that of any other value but nothing
    is read as this value. -/
inductive SchemaTextOf : Value → String → Prop where
  | missing : SchemaTextOf .null "\x7b\x7d"
  | text (s : String) : SchemaTextOf (.text s) s
  | value {v : Value} {text : String} : v ≠ .null → (∀ s, v ≠ .text s) →
      Value.ofJson text = .ok v → SchemaTextOf v text

/-- What a tool has of its entry. -/
structure ContractOf (entry : Value) (tool : Tool) : Prop where
  name : NamedAs entry tool.name
  description : tool.description = if (get "description" entry.entries).truthy then
    (get "description" entry.entries).display else ""
  parameters : SchemaTextOf (get "parameters" entry.entries) tool.parameters
  result : SchemaTextOf (get "result" entry.entries) tool.result
  metadata : tool.metadata = (get "metadata" entry.entries).entries.map
    fun (key, value) => (key.display, value.display)

theorem nameOf?_eq_some {entry : Value} {name : String} :
    nameOf? entry = some name ↔ NamedAs entry name := by
  unfold NamedAs
  cases entry with
  | mapping fields =>
    constructor
    · intro h
      rw [nameOf?] at h
      split at h
      · rename_i htruthy
        exact ⟨fields, rfl, htruthy, Option.some.inj h⟩
      · cases h
    · rintro ⟨_, e, htruthy, hdisplay⟩
      obtain rfl := Value.mapping.inj e
      rw [nameOf?, if_pos htruthy, hdisplay]
  | _ =>
    constructor
    · intro h
      cases h
    · rintro ⟨_, e, _⟩
      cases e

/-- The metadata of an entry that fits are the entries of the mapping, if it is one. -/
theorem entriesOf?_cases (v : Value) :
    (entriesOf? v = some v.entries ∧ (v.truthy = false ∨ ∃ metadata, v = .mapping metadata)) ∨
      (entriesOf? v = none ∧ v.truthy = true ∧ ∀ metadata, v ≠ .mapping metadata) := by
  cases v with
  | mapping metadata => exact Or.inl ⟨rfl, Or.inr ⟨metadata, rfl⟩⟩
  | _ =>
    rw [entriesOf?]
    · split
      · rename_i htruthy
        refine Or.inr ⟨rfl, htruthy, fun metadata e => ?_⟩
        cases e
      · rename_i hfalsy
        exact Or.inl ⟨rfl, Or.inl (Bool.eq_false_iff.mpr hfalsy)⟩
    · intro _ e
      cases e

/-- The metadata of an entry in JSON has one text for each of its keys, in their order. -/
theorem metadataOf_named {metadata : Entries} (h : Named metadata) :
    metadataOf metadata = metadata.map fun (key, value) => (key.display, value.display) := by
  refine assignAll_of_nodup ?_
  have hkeys : (metadata.map fun (key, value) => (key.display, value.display)).map (·.1) =
      (metadata.map (·.1)).map Scalar.display := by
    rw [List.map_map, List.map_map]
    rfl
  rw [hkeys]
  refine h.distinct.map_on fun key hkey other hother hsame => ?_
  obtain ⟨e, he, rfl⟩ := List.mem_map.mp hkey
  obtain ⟨e', he', rfl⟩ := List.mem_map.mp hother
  obtain ⟨word, hword⟩ := h.texts e he
  obtain ⟨word', hword'⟩ := h.texts e' he'
  rw [hword, hword'] at hsame ⊢
  exact congrArg Scalar.text hsame

/-- The text of a schema in JSON is a text for it. -/
theorem exists_schemaTextOf {v : Value} (h : v.IsJson) :
    ∃ text, schemaText v = .ok text ∧ SchemaTextOf v text := by
  unfold schemaText
  split
  · exact ⟨_, rfl, .missing⟩
  · rename_i s
    exact ⟨s, rfl, .text s⟩
  · rename_i hnull htext
    obtain ⟨text, hwritten⟩ := h.exists_toJson
    exact ⟨text, hwritten, .value hnull htext (ofJson_toJson_isJson h hwritten)⟩

/-! ## 3. One entry -/

/-- The names are those of the entries. -/
def Tracks (seen : List String) (before : List Value) : Prop :=
  ∀ name, name ∈ seen ↔ ∃ other ∈ before, NamedAs other name

/-- **An entry in JSON is a tool behind others, or there is something wrong with it.** -/
theorem ofEntry_cases {seen : List String} {before : List Value} (hseen : Tracks seen before)
    {entry : Value} (h : entry.IsJson) :
    (∃ tool, ofEntry seen entry = .ok tool ∧ ContractOf entry tool ∧
        (∀ other ∈ before, ¬NamedAs other tool.name) ∧ MetadataFits entry) ∨
      ∃ cause, ofEntry seen entry = .error (.manifest cause) ∧ Offence before entry cause := by
  have hget (word : String) := isJson_get_entries h word
  have hkeys : Named (get "metadata" entry.entries).entries := by
    cases hvalue : get "metadata" entry.entries with
    | mapping metadata =>
      have hmetadata := hget "metadata"
      rw [hvalue] at hmetadata
      exact hmetadata.1
    | _ => exact named_nil
  rw [ofEntry_of_isWritable h.isWritable]
  -- the checks in their order: whether there is a name, whether it is new, and the metadata
  cases hname : nameOf? entry with
  | none =>
    refine Or.inr ⟨.unnamed entry.literal, rfl, .unnamed fun name hnamed => ?_⟩
    rw [nameOf?_eq_some.mpr hnamed] at hname
    cases hname
  | some name =>
    have hnamed := nameOf?_eq_some.mp hname
    dsimp only
    by_cases hmem : name ∈ seen
    · rw [if_pos hmem]
      exact Or.inr ⟨.duplicate name, rfl, .duplicate hnamed ((hseen name).mp hmem)⟩
    · have hnew : ∀ other ∈ before, ¬NamedAs other name := fun other hother hsame =>
        hmem ((hseen name).mpr ⟨other, hother, hsame⟩)
      rw [if_neg hmem]
      rcases entriesOf?_cases (get "metadata" entry.entries) with ⟨hmetadata, hfits⟩ | hbad
      · obtain ⟨parameters, hparameters, hp⟩ := exists_schemaTextOf (hget "parameters")
        obtain ⟨result, hresult, hr⟩ := exists_schemaTextOf (hget "result")
        rw [hmetadata, hparameters, hresult]
        exact Or.inl ⟨_, rfl, ⟨hnamed, rfl, hp, hr, metadataOf_named hkeys⟩, hnew, hfits⟩
      · obtain ⟨hmetadata, htruthy, hno⟩ := hbad
        refine Or.inr ⟨.badMetadata name, by rw [hmetadata], .badMetadata hnamed hnew ?_⟩
        rintro (hfalsy | ⟨metadata, he⟩)
        · rw [htruthy] at hfalsy
          cases hfalsy
        · exact hno metadata he

theorem tracks_nil : Tracks [] [] := fun _ => ⟨nofun, fun ⟨_, hother, _⟩ => nomatch hother⟩

/-- With the name of one more entry the names are those of one more entry. -/
theorem Tracks.concat {seen : List String} {before : List Value} (h : Tracks seen before)
    {entry : Value} {name : String} (hname : NamedAs entry name) :
    Tracks (name :: seen) (before ++ [entry]) := by
  intro word
  rw [List.mem_cons, h word]
  constructor
  · rintro (rfl | ⟨other, hother, hsame⟩)
    · exact ⟨entry, by simp, hname⟩
    · exact ⟨other, List.mem_append_left _ hother, hsame⟩
  · rintro ⟨other, hother, hsame⟩
    rcases List.mem_append.mp hother with hother | hother
    · exact Or.inr ⟨other, hother, hsame⟩
    · rw [List.mem_singleton.mp hother] at hsame
      exact Or.inl (hsame.unique hname)

/-! ## 4. All entries -/

/-- **Entries in JSON behind others that fit are tools, one by one, and all fit; or else the first
    that is at fault ends the reading.** -/
theorem ofEntries_cases {entries : List Value} (h : ∀ entry ∈ entries, entry.IsJson)
    {seen : List String} {before : List Value} (hseen : Tracks seen before) (hfit : Fit before) :
    (∃ tools, ofEntries seen entries = .ok tools ∧ List.Forall₂ ContractOf entries tools ∧
        Fit (before ++ entries)) ∨
      ∃ front entry after cause, entries = front ++ entry :: after ∧ Fit (before ++ front) ∧
        Offence (before ++ front) entry cause ∧
        ofEntries seen entries = .error (.manifest cause) := by
  induction entries generalizing seen before with
  | nil => exact Or.inl ⟨[], rfl, List.Forall₂.nil, by rwa [List.append_nil]⟩
  | cons entry rest ih =>
    obtain ⟨hentry, hrest⟩ := List.forall_mem_cons.mp h
    rcases ofEntry_cases hseen hentry with ⟨tool, htool, hcontract, hnew, hmetadata⟩ |
      ⟨cause, hcause, hoffence⟩
    · have hmore : ofEntries seen (entry :: rest) =
          (ofEntries (tool.name :: seen) rest).map (tool :: ·) := by
        rw [ofEntries, htool]
        rfl
      have hsplit (others : List Value) :
          before ++ [entry] ++ others = before ++ entry :: others := by
        rw [List.append_assoc, List.singleton_append]
      have htracks := hseen.concat hcontract.name
      rcases ih hrest htracks (hfit.concat hcontract.name hnew hmetadata) with
        ⟨tools, htools, hcontracts, hall⟩ | ⟨front, bad, after, cause, hsame, hfront, hbad, hcause⟩
      · rw [hsplit] at hall
        exact Or.inl ⟨tool :: tools, by rw [hmore, htools]; rfl, .cons hcontract hcontracts, hall⟩
      · rw [hsplit] at hfront hbad
        exact Or.inr ⟨entry :: front, bad, after, cause, by rw [hsame, List.cons_append], hfront,
          hbad, by rw [hmore, hcause]; rfl⟩
    · refine Or.inr ⟨[], entry, rest, cause, rfl, by rwa [List.append_nil],
        by rwa [List.append_nil], ?_⟩
      rw [ofEntries, hcause]
      rfl

/-- Every tool has an entry. -/
theorem exists_entry {entries : List Value} {tools : List Tool}
    (h : List.Forall₂ ContractOf entries tools) {tool : Tool} (htool : tool ∈ tools) :
    ∃ entry ∈ entries, ContractOf entry tool := by
  induction h with
  | nil => cases htool
  | cons hcontract _ ih =>
    rcases List.mem_cons.mp htool with rfl | htool
    · exact ⟨_, List.mem_cons_self, hcontract⟩
    · obtain ⟨entry, hentry, hother⟩ := ih htool
      exact ⟨entry, List.mem_cons_of_mem _ hentry, hother⟩

/-- Tools of entries that fit have names of their own. -/
theorem nodup_names {entries : List Value} {tools : List Tool}
    (h : List.Forall₂ ContractOf entries tools)
    (hdistinct : entries.Pairwise fun first second =>
      ∀ name, NamedAs first name → ¬NamedAs second name) :
    (tools.map (·.name)).Nodup := by
  induction h with
  | nil => exact List.nodup_nil
  | @cons entry tool entries tools hcontract hcontracts ih =>
    obtain ⟨hentry, hrest⟩ := List.pairwise_cons.mp hdistinct
    rw [List.map_cons, List.nodup_cons]
    refine ⟨fun hmem => ?_, ih hrest⟩
    obtain ⟨other, hother, hsame⟩ := List.mem_map.mp hmem
    obtain ⟨second, hsecond, hcontract'⟩ := exists_entry hcontracts hother
    exact hentry second hsecond tool.name hcontract.name (hsame ▸ hcontract'.name)

end Tool

/-- **The tools of a manifest in JSON.** There are tools exactly if the manifest lists entries that
    all fit; each entry is one tool then, in their order, and no two tools have one name. Otherwise
    the manifest lists nothing, or the first entry that is at fault is told. -/
theorem tools_of_manifest {text : String} {manifest : Entries}
    (h : Value.ofJson text = .ok (.mapping manifest)) :
    ((∃ tools, toolsOfJson text = .ok tools) ↔
        ∃ entries, get "tools" manifest = .list entries ∧ Tool.Fit entries) ∧
      (∀ tools, toolsOfJson text = .ok tools →
        ∃ entries, get "tools" manifest = .list entries ∧
          List.Forall₂ Tool.ContractOf entries tools ∧ (tools.map (·.name)).Nodup) ∧
      ∀ fault, toolsOfJson text = .error fault →
        ((∀ entries, get "tools" manifest ≠ .list entries) ∧ fault = .manifest .noTools) ∨
        ∃ before entry after cause, get "tools" manifest = .list (before ++ entry :: after) ∧
          Tool.Fit before ∧ Tool.Offence before entry cause ∧ fault = .manifest cause := by
  have hjson := isJson_get (isJson_of_ofJson h) "tools"
  have hread : toolsOfJson text = (Tool.ofManifest manifest).mapError .ofTool := by
    rw [toolsOfJson, h]
    rfl
  rw [hread]
  unfold Tool.ofManifest
  split
  · rename_i entries hentries
    rw [hentries] at hjson ⊢
    rcases Tool.ofEntries_cases (areJson_iff.mp hjson) Tool.tracks_nil Tool.fit_nil with
      ⟨tools, htools, hcontracts, hfit⟩ | ⟨before, entry, after, cause, rfl, hfit, hoffence, hcause⟩
    · rw [htools]
      refine ⟨⟨fun _ => ⟨entries, rfl, hfit⟩, fun _ => ⟨tools, rfl⟩⟩, ?_, nofun⟩
      rintro _ ⟨⟩
      exact ⟨entries, rfl, hcontracts, Tool.nodup_names hcontracts hfit.distinct⟩
    · rw [hcause]
      refine ⟨⟨nofun, ?_⟩, nofun, ?_⟩
      · rintro ⟨entries, hsame, hall⟩
        obtain rfl := Value.list.inj hsame
        exact absurd hoffence hall.not_offence
      · rintro _ ⟨⟩
        exact Or.inr ⟨before, entry, after, cause, rfl, hfit, hoffence, rfl⟩
  · rename_i hno
    refine ⟨⟨nofun, fun ⟨entries, hentries, _⟩ => absurd hentries (hno entries)⟩, nofun, ?_⟩
    rintro _ ⟨⟩
    exact Or.inl ⟨hno, rfl⟩

/-- A manifest of two entries, the names of which are displayed as one text. -/
def clashingText : String :=
  "\x7b\"tools\": [\x7b\"name\": 1\x7d, \x7b\"name\": \"1\"\x7d]\x7d"

/-- Its document. -/
def clashingManifest : Entries :=
  [(.text "tools", .list [.mapping [(.text "name", .scalar (.int 1))],
    .mapping [(.text "name", .text "1")]])]

/-- A whole number and the text of its digits are one name. -/
theorem tools_of_manifest_clashing :
    Value.ofJson clashingText = .ok (.mapping clashingManifest) ∧
      ∃ before entry after, get "tools" clashingManifest = .list (before ++ entry :: after) ∧
        Tool.Fit before ∧ Tool.Offence before entry (.duplicate "1") := by
  have hread : Value.ofJson clashingText = .ok (.mapping clashingManifest) := by decide +kernel
  have hfault : toolsOfJson clashingText = .error (.manifest (.duplicate "1")) := by
    decide +kernel
  refine ⟨hread, ?_⟩
  rcases (tools_of_manifest hread).2.2 _ hfault with ⟨_, hnone⟩ |
    ⟨before, entry, after, cause, htools, hfit, hoffence, hcause⟩
  · cases hnone
  · obtain rfl := Fault.manifest.inj hcause
    exact ⟨before, entry, after, htools, hfit, hoffence⟩

end SchemaRecords

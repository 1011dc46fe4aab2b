import SchemaRecords.Proofs.Document.Displayed
import SchemaRecords.Proofs.Document.Equality
import SchemaRecords.Proofs.Document.Keys
import SchemaRecords.Proofs.Record.Walk
import SchemaRecords.Proofs.Schema.Members

/-!
# Properties that are kept

The keys of `properties` may be scalars of any kind, and a property is named by the displayed text
of its key. Where two keys have one text, the second property takes the place of the first.

* `Visits` -- the values of a document that are read as schemas; all of them stand for one if the
  document does (`Visits.exists_partOf`);
* `KeysApart` -- no key has the text of another; for the keys of a document that was read, exactly
  where no text beside them says what another scalar says (`nodup_display_iff`);
* `isProperty_assignAll_iff` -- a table of properties has all entries exactly where their texts are
  distinct;
* `properties_kept_iff` -- **every schema that is visited, and every record that is generated from
  it, has each property of its document exactly where the keys are apart**, which those of a JSON
  text are;
* `twoHundred_lost` -- in a YAML text they need not be.
-/

namespace SchemaRecords

open Document

/-! ## 1. Values that are read as schemas -/

/-- **The values that are read as schemas**, from one that is: the value itself, what it has at
    `items` if that may stand for a schema, and what it has at each of its properties. -/
inductive Visits : Value → Value → Prop
  | here (v : Value) : Visits v v
  | items {entries : Entries} {v : Value} (part : IsPart (get "items" entries))
      (below : Visits (get "items" entries) v) : Visits (.mapping entries) v
  | property {entries : Entries} {e : Scalar × Value} {v : Value}
      (mem : e ∈ (get "properties" entries).entries) (below : Visits e.2 v) :
      Visits (.mapping entries) v

theorem partOf_of_itemsAt {v : Value} (hpart : IsPart v) {items : Option Schema}
    (h : itemsAt v = .ok items) : ∃ schema, partOf v = .ok schema := by
  have hboth : ∃ schema, partOf v = .ok schema ∧ some schema = items := by
    obtain ⟨b, rfl⟩ | ⟨entries, rfl⟩ := hpart <;> exact map_eq_ok.mp h
  obtain ⟨schema, hschema, _⟩ := hboth
  exact ⟨schema, hschema⟩

/-- **A value stands for a schema only if every value that is visited does.** -/
theorem Visits.exists_partOf {v w : Value} (h : Visits v w) {schema : Schema}
    (hv : partOf v = .ok schema) : ∃ node, partOf w = .ok node := by
  induction h generalizing schema with
  | here v => exact ⟨schema, hv⟩
  | items part _ ih =>
    obtain ⟨_, _, hitems, _⟩ := partOf_mapping_ok hv
    obtain ⟨item, hitem⟩ := partOf_of_itemsAt part hitems
    exact ih hitem
  | property mem _ ih =>
    obtain ⟨_, parts, _, hparts, _⟩ := partOf_mapping_ok hv
    obtain ⟨part, hpart⟩ := exists_part (partsOf_ok hparts).1 mem
    exact ih hpart

/-- What all mappings of a value have in common, those of a visited value have. -/
theorem Visits.throughout {P : Entries → Prop} {v w : Value} (h : Visits v w)
    (hv : Throughout P v) : Throughout P w := by
  induction h with
  | here v => exact hv
  | items _ _ ih => exact ih (hv.get "items")
  | property mem _ ih => exact ih ((hv.get "properties").of_mem_entries mem)

/-! ## 2. Keys with one text -/

/-- **Keys that are apart**: none that is no text has its text beside it, as `200` has in `"200"`,
    and the double that is not a number is one key at most. -/
structure KeysApart (entries : Entries) : Prop where
  texts : ∀ k ∈ entries.map (·.1), k ≠ .text k.display →
    .text k.display ∉ entries.map (·.1)
  nan : (entries.map (·.1)).count (.float .nan) ≤ 1

instance (entries : Entries) : Decidable (KeysApart entries) :=
  decidable_of_iff
    ((∀ k ∈ entries.map (·.1), k ≠ .text k.display → .text k.display ∉ entries.map (·.1)) ∧
      (entries.map (·.1)).count (.float .nan) ≤ 1)
    ⟨fun h => ⟨h.1, h.2⟩, fun h => ⟨h.texts, h.nan⟩⟩

theorem nodup_of_nan {keys : List Scalar} (h : keys.Pairwise fun a b => a = b → a = .float .nan)
    (hnan : keys.count (.float .nan) ≤ 1) : keys.Nodup := by
  refine List.nodup_iff_sublist.mpr fun k hk => ?_
  obtain rfl : k = .float .nan := List.rel_of_pairwise_cons (h.sublist hk) List.mem_cons_self rfl
  have htwo := hk.count_le (.float .nan)
  rw [List.count_cons_self, List.count_cons_self] at htwo
  omega

theorem keysApart_of_named {entries : Entries} (h : Named entries) : KeysApart entries where
  texts k hk hne := by
    obtain ⟨e, he, rfl⟩ := List.mem_map.mp hk
    obtain ⟨name, hname⟩ := h.texts e he
    rw [hname] at hne
    exact absurd rfl hne
  nan := List.nodup_iff_count_le_one.mp h.distinct _

/-- **The texts of keys that were read are distinct exactly where the keys are apart.** -/
theorem nodup_display_iff {entries : Entries} (hfit : KeysFit entries)
    (hwritable : ∀ k ∈ entries.map (·.1), k.isWritable = true) :
    (entries.map (·.1.display)).Nodup ↔ KeysApart entries := by
  have hmap : entries.map (·.1.display) = (entries.map (·.1)).map Scalar.display := by
    rw [List.map_map]
    rfl
  rw [hmap]
  constructor
  · intro h
    refine ⟨fun k hk hne hmem => ?_, List.nodup_iff_count_le_one.mp h.of_map _⟩
    exact hne (List.inj_on_of_nodup_map h hk hmem rfl)
  · intro h
    refine List.Nodup.map_on (fun a ha b hb hdisplay => ?_) (nodup_of_nan hfit.distinct h.nan)
    rcases (display_eq_iff ⟨hfit.regular a ha, hwritable a ha⟩
      ⟨hfit.regular b hb, hwritable b hb⟩).mp hdisplay with hsame | ha' | hb'
    · exact hsame
    · by_contra hne
      exact h.texts b hb (fun e => hne (ha'.trans e.symm)) (ha' ▸ ha)
    · by_contra hne
      exact h.texts a ha (fun e => hne (e.trans hb'.symm)) (hb' ▸ hb)

/-! ## 3. Schemas and records -/

variable {entries : Entries} {parts : List (String × Schema)}

/-- **A table has the property of each entry exactly where their texts are distinct.** -/
theorem isProperty_assignAll_iff (h : List.Forall₂ IsProperty entries parts) :
    List.Forall₂ IsProperty entries (assignAll parts) ↔ (entries.map (·.1.display)).Nodup := by
  constructor
  · intro hkept
    rw [← names_of_isProperty hkept]
    exact nodup_names_assignAll parts
  · intro hnodup
    rw [assignAll_of_nodup (names_of_isProperty h ▸ hnodup)]
    exact h

/-- A record that is generated from a schema has a field for each of its properties. -/
theorem emitRecord_fields {node : Schema} {name : String} {description : Option String}
    {scope scope' : Name.Scope} {declarations : List Record.Declaration}
    (h : (Record.emitRecord name description scope fun own =>
      Record.emitFields name node.keywords.required own scope node.properties).result =
        .ok (declarations, scope')) :
    ∃ root nested, declarations = root :: nested ∧
      root.fields.map (·.key) = node.properties.map (·.1) := by
  obtain ⟨fields, nested, hwalk, rfl⟩ := Record.emitRecord_ok h
  exact ⟨_, nested, rfl, (Record.emits_of_ok hwalk).map_key⟩

/-- **Properties are kept exactly where their keys are apart.** Of a document that is read as a
    schema, every mapping that is visited stands for one. That has a property for each entry, in
    their order, under the text of its key and with the schema of its value, exactly where the keys
    are apart, and only there as many properties as there are entries; and so it is with the fields
    of a record that is generated from it. The keys of a JSON text are apart. -/
theorem properties_kept_iff {text : String} {v : Value} {schema : Schema}
    (hread : Value.ofYaml text = .ok v ∨ Value.ofJson text = .ok v)
    (hschema : Schema.ofValue v = .ok schema) (hvisits : Visits v (.mapping entries)) :
    let properties := (get "properties" entries).entries
    ∃ node, partOf (.mapping entries) = .ok node ∧
      (List.Forall₂ IsProperty properties node.properties ↔ KeysApart properties) ∧
      (node.properties.length = properties.length ↔ KeysApart properties) ∧
      (∀ name scope declarations scope',
        (Record.emitRecord name node.keywords.description scope fun own =>
          Record.emitFields name node.keywords.required own scope node.properties).result =
            .ok (declarations, scope') →
        ∃ root nested, declarations = root :: nested ∧
          root.fields.map (·.key) = node.properties.map (·.1) ∧
          (root.fields.length = properties.length ↔ KeysApart properties)) ∧
      (Value.ofJson text = .ok v → KeysApart properties) := by
  intro properties
  obtain ⟨node, hnode⟩ := hvisits.exists_partOf (partOf_of_ofValue hschema)
  obtain ⟨items, parts, _, hparts, hmade⟩ := partOf_mapping_ok hnode
  have htable : node.properties = assignAll parts := by rw [hmade]; rfl
  obtain ⟨hproperties, hwritable⟩ := partsOf_ok hparts
  have hfit : KeysFit properties := by
    have hall : Throughout KeysFit v := by
      rcases hread with h | h
      · exact Yaml.throughout_ofYaml h
      · exact (throughout_ofJson h).mono Named.keysFit
    exact ((hvisits.throughout hall).get "properties").of_entries named_nil.keysFit
  have hapart := nodup_display_iff hfit hwritable
  have hlength : node.properties.length = properties.length ↔ KeysApart properties := by
    rw [← hapart, ← names_of_isProperty hproperties, ← length_assignAll_iff, htable,
      hproperties.length_eq]
  refine ⟨node, hnode, ?_, hlength, fun name scope declarations scope' hrecord => ?_,
    fun hjson => ?_⟩
  · rw [htable, isProperty_assignAll_iff hproperties, hapart]
  · obtain ⟨root, nested, hroot, hkeys⟩ := emitRecord_fields hrecord
    have hfields : root.fields.length = node.properties.length := by
      rw [← List.length_map (·.key), hkeys, List.length_map]
    exact ⟨root, nested, hroot, hkeys, hfields ▸ hlength⟩
  · have hall := hvisits.throughout (throughout_ofJson hjson)
    exact keysApart_of_named ((hall.get "properties").of_entries named_nil)

/-- A schema whose items have keys of many kinds. -/
def kindsText : String :=
  "properties:\n  on:\n    items:\n      properties:\n        200: \x7btype: integer\x7d\n" ++
    "        1.5: true\n        ~: \x7b\x7d\n        2024-02-29: \x7btitle: Day\x7d\n" ++
    "        \"2024\": \x7b\x7d\n        2001-12-14t21:59:43.10-05:00: \x7b\x7d\n" ++
    "        !!binary aGk=: \x7b\x7d\n"

/-- The entries of these properties. -/
def kindsProperties : Entries :=
  [(.int 200, .mapping [(.text "type", .text "integer")]),
    (.float (.finite false 6755399441055744 (-52)), .scalar (.bool true)),
    (.null, .mapping []), (.date ⟨2024, 2, 29⟩, .mapping [(.text "title", .text "Day")]),
    (.text "2024", .mapping []),
    (.moment ⟨⟨2001, 12, 14⟩, 21, 59, 43, 100000, some (-300)⟩, .mapping []),
    (.bytes [0x68, 0x69], .mapping [])]

/-- The displayed texts of their keys. -/
def kindsNames : List String :=
  ["200", "1.5", "None", "2024-02-29", "2024", "2001-12-14 21:59:43.100000-05:00", "b'hi'"]

/-- The items. -/
def kindsItems : Entries := [(.text "properties", .mapping kindsProperties)]

/-- The whole. -/
def kindsValue : Value :=
  .mapping [(.text "properties",
    .mapping [(.bool true, .mapping [(.text "items", .mapping kindsItems)])])]

theorem visits_kindsItems : Visits kindsValue (.mapping kindsItems) :=
  .property List.mem_cons_self (.items (Or.inr ⟨kindsItems, rfl⟩) (.here _))

theorem properties_kept_iff_kinds :
    Value.ofYaml kindsText = .ok kindsValue ∧ KeysApart kindsProperties ∧
      ∃ node, partOf (.mapping kindsItems) = .ok node ∧
        List.Forall₂ IsProperty kindsProperties node.properties ∧
        node.properties.map (·.1) = kindsNames := by
  have hread : Value.ofYaml kindsText = .ok kindsValue := by decide +kernel
  have hparsed : (Schema.ofValue kindsValue).map (fun _ => ()) = .ok () := by decide +kernel
  obtain ⟨schema, hschema, _⟩ := map_eq_ok.mp hparsed
  obtain ⟨node, hnode, hkept, _⟩ :=
    properties_kept_iff (Or.inl hread) hschema visits_kindsItems
  have hapart : KeysApart kindsProperties := by decide +kernel
  have hproperties := hkept.mpr hapart
  have hnames : kindsProperties.map (·.1.display) = kindsNames := by decide +kernel
  exact ⟨hread, hapart, node, hnode, hproperties,
    (names_of_isProperty hproperties).trans hnames⟩

/-- A schema with the whole number 200 and its text as keys. -/
def twiceText : String :=
  "type: object\nproperties:\n  200: \x7btype: integer\x7d\n  \"200\": \x7btype: string\x7d\n"

/-- The entries of its properties. -/
def twiceProperties : Entries :=
  [(.int 200, .mapping [(.text "type", .text "integer")]),
    (.text "200", .mapping [(.text "type", .text "string")])]

/-- The whole. -/
def twiceValue : Value :=
  .mapping [(.text "type", .text "object"), (.text "properties", .mapping twiceProperties)]

/-- **A property is lost**: of two entries the schema has the second one alone, and the record that
    is generated from it has one field. -/
theorem twoHundred_lost :
    Value.ofYaml twiceText = .ok twiceValue ∧ twiceProperties.length = 2 ∧
      ∃ schema, Schema.ofValue twiceValue = .ok schema ∧
        schema.properties.map (fun p => (p.1, p.2.keywords.kind)) = [("200", .string)] ∧
        (declarationsOfSchema schema "Reply" "error").result =
          .ok [⟨"Reply", none, [⟨"200", "200", ⟨"string", true⟩, none, false⟩]⟩] := by
  have hparsed : (Schema.ofValue twiceValue).map (fun schema =>
      (schema.properties.map (fun p => (p.1, p.2.keywords.kind)),
        (declarationsOfSchema schema "Reply" "error").result.toOption)) =
      .ok ([("200", .string)],
        some [⟨"Reply", none, [⟨"200", "200", ⟨"string", true⟩, none, false⟩]⟩]) := by
    decide +kernel
  obtain ⟨schema, hschema, hboth⟩ := map_eq_ok.mp hparsed
  obtain ⟨hnames, hdeclared⟩ := Prod.mk.inj hboth
  refine ⟨by decide +kernel, rfl, schema, hschema, hnames, ?_⟩
  cases hresult : (declarationsOfSchema schema "Reply" "error").result with
  | error e =>
    rw [hresult] at hdeclared
    cases hdeclared
  | ok declarations =>
    rw [hresult] at hdeclared
    exact congrArg Except.ok (Option.some.inj hdeclared)

end SchemaRecords

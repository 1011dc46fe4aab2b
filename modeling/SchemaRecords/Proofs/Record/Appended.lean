import SchemaRecords.Proofs.Record.Wider
import SchemaRecords.Proofs.Schema.Members

/-!
# More at the end

Names are claimed in the order in which things stand, so what is put behind everything else changes
no name before it.

* `Schema.extend` -- a schema with more properties behind its own, some of them required;
* `Emits.front` -- a walk over properties with more behind them begins with the walk over those
  alone, whatever the policy;
* `emitRoot_extend`, `emitTools_append` -- the same for a root with more properties and for tools
  with more behind them;
* `appending_keeps` -- so a run answers the beginning of what it answers with more at the end.
-/

namespace SchemaRecords.Schema

/-- The schema with more properties behind its own, and more keys that are required. -/
def extend (s : Schema) (more : List (String × Schema)) (keys : List String) : Schema :=
  .node { s.keywords with required := nameSet (s.keywords.required ++ keys) } s.items
    (s.properties ++ more)

/-- Keys of new properties change nothing for the old ones. -/
theorem contains_required_extend {s : Schema} {more : List (String × Schema)} {keys : List String}
    (hnew : ∀ p ∈ more, p.1 ∉ s.properties.map (·.1)) (hkeys : ∀ key ∈ keys, key ∈ more.map (·.1))
    {key : String} (hkey : key ∈ s.properties.map (·.1)) :
    (s.extend more keys).keywords.required.contains key = s.keywords.required.contains key := by
  have hold : key ∉ keys := by
    intro h
    obtain ⟨p, hp, rfl⟩ := List.mem_map.mp (hkeys key h)
    exact hnew p hp hkey
  rw [Bool.eq_iff_iff, List.contains_iff_mem, List.contains_iff_mem]
  show key ∈ nameSet (s.keywords.required ++ keys) ↔ _
  rw [mem_nameSet, List.mem_append]
  exact or_iff_left hold

end SchemaRecords.Schema

namespace SchemaRecords.Record

open Name Schema

/-! ## 1. One walk -/

/-- **A walk over properties with more behind them begins with the walk over those alone.** Of the
    required keys only those of the properties count. -/
theorem Emits.front {record : String} {required required' : List String} {own scope scope' : Scope}
    {ps more : List (String × Schema)} {fields : List Field} {nested : List Declaration}
    (h : Emits record required' own scope (ps ++ more) fields nested scope')
    (hrequired : ∀ key ∈ ps.map (·.1), required'.contains key = required.contains key) :
    ∃ front under mid, Emits record required own scope ps front under mid ∧
      front <+: fields ∧ under <+: nested := by
  induction ps generalizing own scope fields nested with
  | nil =>
    exact ⟨[], [], scope, .nil record required own scope, List.nil_prefix, List.nil_prefix⟩
  | cons p rest ih =>
    have hfirst := hrequired _ List.mem_cons_self
    have hothers := fun key hkey => hrequired key (List.mem_cons_of_mem _ hkey)
    cases h with
    | plain hs hname hrest =>
      obtain ⟨front, under, mid, hw, hf, hn⟩ := ih hrest hothers
      rw [hfirst]
      exact ⟨_, under, mid, .plain hs hname hw, (List.prefix_cons_inj _).mpr hf, hn⟩
    | record hs hclaim hbelow hname hrest =>
      -- what is under the property is emitted before anything behind it is looked at
      obtain ⟨front, under, mid, hw, hf, hn⟩ := ih hrest hothers
      rw [hfirst]
      exact ⟨_, _, mid, .record hs hclaim hbelow hname hw, (List.prefix_cons_inj _).mpr hf,
        (List.prefix_append_right_inj _).mpr hn⟩

/-! ## 2. Roots -/

/-- **A root with more properties** has the fields it has without them in front, and the
    declarations under them in front of the others. -/
theorem emitRoot_extend {schema : Schema} {more : List (String × Schema)} {keys : List String}
    (hnew : ∀ p ∈ more, p.1 ∉ schema.properties.map (·.1))
    (hkeys : ∀ key ∈ keys, key ∈ more.map (·.1)) {root : String} {scope scope' : Scope}
    {declarations : List Declaration}
    (h : (emitRoot (schema.extend more keys) root scope).result = .ok (declarations, scope')) :
    ∃ name fields front nested under mid,
      declarations = ⟨name, schema.documentation?, fields⟩ :: nested ∧
      (emitRoot schema root scope).result =
        .ok (⟨name, schema.documentation?, front⟩ :: under, mid) ∧
      front <+: fields ∧ under <+: nested := by
  obtain ⟨name, scope₁, fields, nested, hclaim, hwalk, rfl⟩ := emitRoot_ok h
  obtain ⟨front, under, mid, hw, hf, hn⟩ := Emits.front hwalk
    fun key hkey => contains_required_extend hnew hkeys hkey
  exact ⟨name, fields, front, nested, under, mid, rfl, emitRoot_eq_ok hclaim hw, hf, hn⟩

end SchemaRecords.Record

namespace SchemaRecords

open Name Record

/-! ## 3. Tools -/

/-- **Tools with more behind them** have the declarations they have without them in front. -/
theorem emitTools_append {tools more : List Tool} {scope : Scope}
    {declarations : List Declaration}
    (h : (emitTools scope (tools ++ more)).result = .ok declarations) :
    ∃ before, (emitTools scope tools).result = .ok before ∧ before <+: declarations := by
  induction tools generalizing scope declarations with
  | nil => exact ⟨[], rfl, List.nil_prefix⟩
  | cons tool rest ih =>
    obtain ⟨first, scope₁, others, hfirst, hothers, rfl⟩ := emitTools_cons_ok h
    obtain ⟨before, hrest, hprefix⟩ := ih hothers
    refine ⟨first ++ before, ?_, (List.prefix_append_right_inj first).mpr hprefix⟩
    rw [emitTools]
    refine Outcome.result_bind_eq_ok.mpr ⟨_, hfirst, ?_⟩
    exact Outcome.result_bind_eq_ok.mpr ⟨_, hrest, rfl⟩

/-! ## 4. Runs -/

/-- **What is put at the end changes nothing before it**, under either policy. With more tools
    behind the given ones, a run begins with what it answers for those. With more properties behind
    those of a schema, some of which may be required, its root begins with the fields it has without
    them, and the declarations under it begin with those it has without them. -/
theorem appending_keeps (word : String) :
    (∀ (tools more : List Tool) (declarations : List Declaration),
      (declarationsOfTools (tools ++ more) word).result = .ok declarations →
      ∃ before, (declarationsOfTools tools word).result = .ok before ∧ before <+: declarations) ∧
    ∀ (schema : Schema) (more : List (String × Schema)) (keys : List String) (root : String)
      (declarations : List Declaration),
      (∀ p ∈ more, p.1 ∉ schema.properties.map (·.1)) → (∀ key ∈ keys, key ∈ more.map (·.1)) →
      (declarationsOfSchema (schema.extend more keys) root word).result = .ok declarations →
      ∃ name documentation fields front nested under,
        declarations = ⟨name, documentation, fields⟩ :: nested ∧
        (declarationsOfSchema schema root word).result =
          .ok (⟨name, documentation, front⟩ :: under) ∧
        front <+: fields ∧ under <+: nested := by
  refine ⟨fun tools more declarations h => ?_,
    fun schema more keys root declarations hnew hkeys h => ?_⟩
  · unfold declarationsOfTools at h ⊢
    obtain ⟨policy, hp, h⟩ := Outcome.result_bind_eq_ok.mp h
    obtain ⟨before, hb, hprefix⟩ := emitTools_append h
    exact ⟨before, Outcome.result_bind_eq_ok.mpr ⟨policy, hp, hb⟩, hprefix⟩
  · obtain ⟨policy, hp, h⟩ := declarationsOfSchema_ok h
    unfold Record.ofSchema at h
    obtain ⟨⟨emitted, scope⟩, he, h⟩ := Outcome.result_bind_eq_ok.mp h
    cases h
    obtain ⟨name, fields, front, nested, under, mid, rfl, hw, hf, hn⟩ :=
      emitRoot_extend hnew hkeys he
    exact ⟨name, schema.documentation?, fields, front, nested, under, rfl,
      declarationsOfSchema_eq_ok hp hw, hf, hn⟩

/-- A trip from a place. -/
def trip : Schema :=
  .node { Keywords.none with kind := .object, required := ["from"] } none
    [("from",
      .node { Keywords.none with kind := .object, title := some "place" } none
        [("city", .node { Keywords.none with kind := .string } none [])])]

/-- A list of places, whose record asks for the name of the first place. -/
def tripStops : List (String × Schema) :=
  [("stops",
    .node { Keywords.none with kind := .array }
      (some (.node { Keywords.none with kind := .object, title := some "place" } none []))
      [])]

/-- The declarations of a trip with stops. -/
def tripStopsDeclarations : List Declaration :=
  [⟨"Trip", none,
      [⟨"From", "from", ⟨"Place", false⟩, none, true⟩,
        ⟨"Stops", "stops", ⟨"IReadOnlyList<Place2>", false⟩, none, true⟩]⟩,
    ⟨"Place", none, [⟨"City", "city", ⟨"string", true⟩, none, false⟩]⟩,
    ⟨"Place2", none, []⟩]

theorem appending_keeps_trip :
    (declarationsOfTools ([call] ++ [call]) "suffix").result = .ok callDeclarations ∧
      (∃ before, (declarationsOfTools [call] "suffix").result = .ok before ∧
        before <+: callDeclarations) ∧
      (∀ p ∈ tripStops, p.1 ∉ trip.properties.map (·.1)) ∧
      (∀ key ∈ ["stops"], key ∈ tripStops.map (·.1)) ∧
      (declarationsOfSchema (trip.extend tripStops ["stops"]) "Trip" "suffix").result =
        .ok tripStopsDeclarations ∧
      ∃ name documentation fields front nested under,
        tripStopsDeclarations = ⟨name, documentation, fields⟩ :: nested ∧
        (declarationsOfSchema trip "Trip" "suffix").result =
          .ok (⟨name, documentation, front⟩ :: under) ∧
        front <+: fields ∧ under <+: nested := by
  have htools : (declarationsOfTools ([call] ++ [call]) "suffix").result =
      .ok callDeclarations := by decide +kernel
  have hnew : ∀ p ∈ tripStops, p.1 ∉ trip.properties.map (·.1) := by decide +kernel
  have hkeys : ∀ key ∈ ["stops"], key ∈ tripStops.map (·.1) := by decide +kernel
  have hrun : (declarationsOfSchema (trip.extend tripStops ["stops"]) "Trip" "suffix").result =
      .ok tripStopsDeclarations := by decide +kernel
  obtain ⟨ht, hs⟩ := appending_keeps "suffix"
  exact ⟨htools, ht _ _ _ htools, hnew, hkeys, hrun, hs _ _ _ _ _ hnew hkeys hrun⟩

end SchemaRecords

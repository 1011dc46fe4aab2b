import SchemaRecords.Generate
import SchemaRecords.Proofs.Name.Claim
import SchemaRecords.Proofs.Schema.Core

/-!
# The walk that emits records

What the walk over the properties of a record does, property by property.

* `emitNested_eq`, `emitFields_cons` -- a property is read through its arrays at once, so the walk
  is a recursion over properties alone;
* `Emits` -- the walks that come to an end, as a relation: a property that leads to no record, one
  that leads to a record, and nothing left;
* `emits_of_ok`, `emitRoot_ok`, `emitTool_ok` -- every walk that answers is one of them;
* `Emits.keys_required` -- each property has a field, under its key.
-/

namespace SchemaRecords.Record

open Name Schema

/-! ## 1. One property at a time -/

/-- The name that the record under a property asks for. -/
def targetName (record key : String) (depth : Nat) (r : Schema) : String :=
  (TypeRef.ofSchema r (some (compose record key 0 ++ Name.items depth))).name

/-- What lies under a property is what lies at its core. -/
theorem emitNested_eq (composed : String) (depth : Nat) (scope : Scope) (s : Schema) :
    emitNested composed depth scope s =
      emitObject composed (depth + s.depth) scope s.core fun name own scope =>
        emitFields name s.core.keywords.required own scope s.core.properties := by
  induction s using array_induction generalizing depth with
  | leaf s h =>
    rw [depth_of_item?_none h, core_of_item?_none h]
    obtain ⟨k, items, properties⟩ := s
    cases items with
    | none => simp only [emitNested]; rfl
    | some item =>
      simp only [item?, ite_eq_right_iff, reduceCtorEq, imp_false] at h
      simp only [emitNested, if_neg h]
      rfl
  | array s item h ih =>
    rw [depth_of_item?_some h, core_of_item?_some h, ← Nat.add_assoc, Nat.add_right_comm]
    obtain ⟨k, properties, rfl, hr, hk⟩ := item?_eq_some h
    rw [← ih (depth + 1)]
    simp [emitNested, hr, hk]

/-- A property that leads to no record has nothing under it. -/
theorem emitNested_plain {s : Schema} (h : s.record? = none) (composed : String) (scope : Scope) :
    emitNested composed 0 scope s = .done ⟨[], none, scope⟩ := by
  rw [emitNested_eq, emitObject, record?_eq_none.mp h]
  rfl

/-- The first property: what is under it, then its field, then the other properties. -/
theorem emitFields_cons (record : String) (required : List String) (own scope : Scope)
    (key : String) (s : Schema) (rest : List (String × Schema)) :
    emitFields record required own scope ((key, s) :: rest) =
      emitNested (compose record key 0) 0 scope s >>= fun nested => do
        let (name, own) ← own.claim (pascal key)
        let (fields, more, scope) ← emitFields record required own nested.scope rest
        return (fieldOf name key (required.contains key)
          (fieldType (compose record key 0) nested.renamed s) s :: fields,
          nested.declarations ++ more, scope) := by
  rw [emitFields]

/-! ## 2. The walks that come to an end -/

/-- The walks over the properties of a record that come to an end: the record, its required keys,
    the names of its fields and those of the run, its properties, and then its fields, the
    declarations under it and the names of the run after it. -/
inductive Emits : String → List String → Scope → Scope → List (String × Schema) →
    List Field → List Declaration → Scope → Prop
  | nil (record : String) (required : List String) (own scope : Scope) :
      Emits record required own scope [] [] [] scope
  | plain {record required own own' scope scope' key s rest name fields nested}
      (hs : s.record? = none)
      (hname : (own.claim (pascal key)).result = .ok (name, own'))
      (hrest : Emits record required own' scope rest fields nested scope') :
      Emits record required own scope ((key, s) :: rest)
        (fieldOf name key (required.contains key)
          (fieldType (compose record key 0) none s) s :: fields)
        nested scope'
  | record {record required own own' scope scope₁ scope₂ scope₃ key s rest depth r claimed below
        nested name fields more}
      (hs : s.record? = some (depth, r))
      (hclaim : (scope.claim (targetName record key depth r)).result = .ok (claimed, scope₁))
      (hbelow : Emits claimed r.keywords.required (.new scope₁.policy (some claimed)) scope₁
        r.properties below nested scope₂)
      (hname : (own.claim (pascal key)).result = .ok (name, own'))
      (hrest : Emits record required own' scope₂ rest fields more scope₃) :
      Emits record required own scope ((key, s) :: rest)
        (fieldOf name key (required.contains key)
          (fieldType (compose record key 0)
            (if claimed == targetName record key depth r then none else some (depth, claimed)) s)
          s :: fields)
        (⟨claimed, r.documentation?, below⟩ :: nested ++ more) scope₃

theorem emitRecord_ok {name : String} {description : Option String} {scope scope' : Scope}
    {walk : Scope → Outcome Clash (List Field × List Declaration × Scope)}
    {declarations : List Declaration}
    (h : (emitRecord name description scope walk).result = .ok (declarations, scope')) :
    ∃ fields nested,
      (walk (.new scope.policy (some name))).result = .ok (fields, nested, scope') ∧
      declarations = ⟨name, present? description, fields⟩ :: nested := by
  unfold emitRecord at h
  obtain ⟨⟨fields, nested, scope₁⟩, hw, h⟩ := Outcome.result_bind_eq_ok.mp h
  obtain ⟨_, hd, h⟩ := Outcome.result_bind_eq_ok.mp h
  cases hd
  cases h
  exact ⟨fields, nested, hw, rfl⟩

/-- A record is emitted where its properties are walked. -/
theorem emitRecord_eq_ok {name : String} {description : Option String} {scope : Scope}
    {walk : Scope → Outcome Clash (List Field × List Declaration × Scope)}
    {fields : List Field} {nested : List Declaration} {scope' : Scope}
    (h : (walk (.new scope.policy (some name))).result = .ok (fields, nested, scope')) :
    (emitRecord name description scope walk).result =
      .ok (⟨name, present? description, fields⟩ :: nested, scope') := by
  unfold emitRecord
  refine Outcome.result_bind_eq_ok.mpr ⟨_, h, ?_⟩
  exact Outcome.result_bind_eq_ok.mpr ⟨_, rfl, rfl⟩

/-- What emitting the record under a property has done. -/
theorem emitNested_ok {s r : Schema} {depth : Nat} (hs : s.record? = some (depth, r))
    {record key : String} {scope : Scope} {n : Nested}
    (h : (emitNested (compose record key 0) 0 scope s).result = .ok n) :
    ∃ claimed scope₁ below nested,
      (scope.claim (targetName record key depth r)).result = .ok (claimed, scope₁) ∧
      (emitFields claimed r.keywords.required (.new scope₁.policy (some claimed)) scope₁
        r.properties).result = .ok (below, nested, n.scope) ∧
      n.declarations = ⟨claimed, r.documentation?, below⟩ :: nested ∧
      n.renamed =
        if claimed == targetName record key depth r then none else some (depth, claimed) := by
  obtain ⟨rfl, rfl, hr⟩ := record?_eq_some hs
  rw [emitNested_eq, Nat.zero_add, emitObject, if_pos hr] at h
  obtain ⟨⟨claimed, scope₁⟩, hc, h⟩ := Outcome.result_bind_eq_ok.mp h
  obtain ⟨⟨declarations, scope₂⟩, he, h⟩ := Outcome.result_bind_eq_ok.mp h
  cases h
  obtain ⟨below, nested, hw, rfl⟩ := emitRecord_ok he
  exact ⟨claimed, scope₁, below, nested, hc, hw, rfl, rfl⟩

/-- **Every walk that answers is one of `Emits`.** -/
theorem emits_of_ok {record : String} {required : List String} {own scope scope' : Scope}
    {ps : List (String × Schema)} {fields : List Field} {nested : List Declaration}
    (h : (emitFields record required own scope ps).result = .ok (fields, nested, scope')) :
    Emits record required own scope ps fields nested scope' := by
  induction ps using properties_induction generalizing record required own scope scope' fields
    nested with
  | nil =>
    simp only [emitFields] at h
    cases h
    exact .nil record required own scope
  | plain key s rest hs ih =>
    rw [emitFields_cons, emitNested_plain hs] at h
    obtain ⟨_, hn, h⟩ := Outcome.result_bind_eq_ok.mp h
    cases hn
    obtain ⟨⟨name, own'⟩, hname, h⟩ := Outcome.result_bind_eq_ok.mp h
    obtain ⟨⟨fields', more, scope₁⟩, hrest, h⟩ := Outcome.result_bind_eq_ok.mp h
    cases h
    exact .plain hs hname (ih hrest)
  | record key s rest depth r hs ihr ih =>
    rw [emitFields_cons] at h
    obtain ⟨n, hn, h⟩ := Outcome.result_bind_eq_ok.mp h
    obtain ⟨⟨name, own'⟩, hname, h⟩ := Outcome.result_bind_eq_ok.mp h
    obtain ⟨⟨fields', more, scope₁⟩, hrest, h⟩ := Outcome.result_bind_eq_ok.mp h
    cases h
    obtain ⟨claimed, scope₂, below, nested', hc, hw, hd, hren⟩ := emitNested_ok hs hn
    rw [hd, hren]
    exact .record hs hc (ihr hw) hname (ih hrest)

/-- A walk does not change the policy of the run. -/
theorem Emits.policy_eq {record : String} {required : List String} {own scope scope' : Scope}
    {ps : List (String × Schema)} {fields : List Field} {nested : List Declaration}
    (h : Emits record required own scope ps fields nested scope') :
    scope'.policy = scope.policy := by
  induction h with
  | nil record required own scope => rfl
  | plain _ _ _ ih => exact ih
  | record _ hclaim _ _ _ ihb ih =>
    obtain ⟨_, rfl, _⟩ := Scope.claim_ok hclaim
    rw [ih, ihb, Scope.policy_take]

/-- **Each property has a field**, which is required exactly if its key is one of the required
    ones. -/
theorem Emits.keys_required {record : String} {required : List String} {own scope scope' : Scope}
    {ps : List (String × Schema)} {fields : List Field} {nested : List Declaration}
    (h : Emits record required own scope ps fields nested scope') :
    fields.map (fun f => (f.key, f.required)) = ps.map fun p => (p.1, required.contains p.1) := by
  induction h with
  | nil record required own scope => rfl
  | plain _ _ _ ih =>
    rw [List.map_cons, List.map_cons, ih]
    rfl
  | record _ _ _ _ _ _ ih =>
    rw [List.map_cons, List.map_cons, ih]
    rfl

/-- The keys of the fields are those of the properties. -/
theorem Emits.map_key {record : String} {required : List String} {own scope scope' : Scope}
    {ps : List (String × Schema)} {fields : List Field} {nested : List Declaration}
    (h : Emits record required own scope ps fields nested scope') :
    fields.map (·.key) = ps.map (·.1) := by
  have hkeys := congrArg (List.map Prod.fst) h.keys_required
  rw [List.map_map, List.map_map] at hkeys
  exact hkeys

/-! ## 3. Whole runs -/

/-- What emitting a root has done. -/
theorem emitRoot_ok {schema : Schema} {root : String} {scope scope' : Scope}
    {declarations : List Declaration}
    (h : (emitRoot schema root scope).result = .ok (declarations, scope')) :
    ∃ claimed scope₁ fields nested,
      (scope.claim root).result = .ok (claimed, scope₁) ∧
      Emits claimed schema.keywords.required (.new scope₁.policy (some claimed)) scope₁
        schema.properties fields nested scope' ∧
      declarations = ⟨claimed, schema.documentation?, fields⟩ :: nested := by
  unfold emitRoot at h
  obtain ⟨⟨claimed, scope₁⟩, hc, h⟩ := Outcome.result_bind_eq_ok.mp h
  obtain ⟨fields, nested, hw, rfl⟩ := emitRecord_ok h
  exact ⟨claimed, scope₁, fields, nested, hc, emits_of_ok hw, rfl⟩

/-- A run over one schema starts with the root name, which is free. -/
theorem ofSchema_ok {schema : Schema} {root : String} {policy : Policy}
    {declarations : List Declaration}
    (h : (ofSchema schema root policy).result = .ok declarations) :
    ∃ fields nested scope',
      Emits root schema.keywords.required (.new policy (some root))
        ((Scope.new policy none).take root) schema.properties fields nested scope' ∧
      declarations = ⟨root, schema.documentation?, fields⟩ :: nested := by
  unfold ofSchema at h
  obtain ⟨⟨declarations', scope'⟩, he, h⟩ := Outcome.result_bind_eq_ok.mp h
  cases h
  obtain ⟨claimed, scope₁, fields, nested, hc, hw, rfl⟩ := emitRoot_ok he
  have hfree : root ∉ (Scope.new policy none).taken := List.not_mem_nil
  rw [Scope.claim_free hfree] at hc
  cases hc
  exact ⟨fields, nested, scope', hw, rfl⟩

end SchemaRecords.Record

namespace SchemaRecords

/-- A run under a policy that is given by its word. -/
theorem declarationsOfSchema_ok {schema : Schema} {root word : String}
    {declarations : List Record.Declaration}
    (h : (declarationsOfSchema schema root word).result = .ok declarations) :
    ∃ policy, Name.Policy.ofName? word = some policy ∧
      (Record.ofSchema schema root policy).result = .ok declarations := by
  unfold declarationsOfSchema at h
  obtain ⟨policy, hp, h⟩ := Outcome.result_bind_eq_ok.mp h
  refine ⟨policy, ?_, ?_⟩
  · unfold policyOf at hp
    split at hp
    · cases hp
      assumption
    · cases hp
  · exact Outcome.result_mapError_eq_ok.mp h

/-- What emitting a tool has done: the declarations of its parameters, the root documented. -/
theorem emitTool_ok {tool : Tool} {scope scope' : Name.Scope}
    {declarations : List Record.Declaration}
    (h : (emitTool tool scope).result = .ok (declarations, scope')) :
    ∃ schema plain, Schema.ofJson tool.parameters = .ok schema ∧
      (Record.emitRoot schema (Name.ofRequest tool.name) scope).result = .ok (plain, scope') ∧
      declarations = documentRoot tool.description plain := by
  unfold emitTool at h
  obtain ⟨schema, hschema, h⟩ := Outcome.result_bind_eq_ok.mp h
  obtain ⟨⟨plain, scope₁⟩, he, h⟩ := Outcome.result_bind_eq_ok.mp h
  cases h
  exact ⟨schema, plain, hschema, Outcome.result_mapError_eq_ok.mp he, rfl⟩

/-- What emitting tools has done: the first tool, then the others. -/
theorem emitTools_cons_ok {tool : Tool} {rest : List Tool} {scope : Name.Scope}
    {declarations : List Record.Declaration}
    (h : (emitTools scope (tool :: rest)).result = .ok declarations) :
    ∃ first scope' more, (emitTool tool scope).result = .ok (first, scope') ∧
      (emitTools scope' rest).result = .ok more ∧ declarations = first ++ more := by
  rw [emitTools] at h
  obtain ⟨⟨first, scope'⟩, hfirst, h⟩ := Outcome.result_bind_eq_ok.mp h
  obtain ⟨more, hmore, h⟩ := Outcome.result_bind_eq_ok.mp h
  cases h
  exact ⟨first, scope', more, hfirst, hmore, rfl⟩

end SchemaRecords

import SchemaRecords.Proofs.Record.Distinct

/-!
# Runs from a wider scope

Under the policy that refuses, names that are in use beforehand can only stand in the way: from a
scope that holds more of them a run answers what it answers without them, as long as it declares
none of them.

* `Scope.widen`, `Scope.claim_widen_iff` -- a scope with more names in use, and a claim there;
* `emits_iff` -- `Emits` is all that a walk can answer, and what it does answer;
* `Emits.scope_eq` -- what a walk leaves of the scope of the run;
* `Emits.widen`, `Emits.narrow` -- a walk from a scope is one from the wider scope, and back;
* `emitRoot_widen_iff` -- so a root goes alike from both;
* `declarationsOfSchema_eq_ok` -- a run over a schema is its root, from a scope without names.
-/

namespace SchemaRecords.Name.Scope

/-! ## 1. Wider scopes -/

/-- The scope with more names in use. -/
def widen (s : Scope) (more : List String) : Scope := { s with taken := s.taken ++ more }

/-- **A claim in a wider scope** answers what it answers in the scope, unless that is one of the
    names that are in use besides. -/
theorem claim_widen_iff {s t : Scope} (hp : s.policy = .refuse) {name claimed : String}
    {more : List String} :
    ((s.widen more).claim name).result = .ok (claimed, t) ↔
      ∃ s', (s.claim name).result = .ok (claimed, s') ∧ t = s'.widen more ∧ claimed ∉ more := by
  have hwide : (s.widen more).policy = .refuse := hp
  rw [claim_refuse hwide, claim_refuse hp]
  have hmem : name ∈ (s.widen more).taken ↔ name ∈ s.taken ∨ name ∈ more := List.mem_append
  by_cases hs : name ∈ s.taken
  · rw [if_pos (hmem.mpr (Or.inl hs)), if_pos hs]
    constructor
    · intro h
      cases h
    · rintro ⟨s', h, _⟩
      cases h
  · rw [if_neg hs]
    by_cases hm : name ∈ more
    · rw [if_pos (hmem.mpr (Or.inr hm))]
      constructor
      · intro h
        cases h
      · rintro ⟨s', h, _, hfree⟩
        cases h
        exact absurd hm hfree
    · have hfree : name ∉ (s.widen more).taken := fun h => (hmem.mp h).elim hs hm
      rw [if_neg hfree]
      constructor
      · intro h
        cases h
        exact ⟨_, rfl, rfl, hm⟩
      · rintro ⟨s', h, rfl, _⟩
        cases h
        rfl

end SchemaRecords.Name.Scope

namespace SchemaRecords.Record

open Name Schema

section Emits

variable {record : String} {required : List String} {own scope scope' : Scope}
  {ps : List (String × Schema)} {fields : List Field} {nested : List Declaration}

/-! ## 2. Walks and what they answer -/

/-- A record under a property is emitted where its name is claimed and its properties are
    walked. -/
theorem emitNested_eq_ok {s r : Schema} {depth : Nat} (hs : s.record? = some (depth, r))
    {key claimed : String} {scope₁ scope₂ : Scope} {below : List Field}
    (hclaim : (scope.claim (targetName record key depth r)).result = .ok (claimed, scope₁))
    (hwalk : (emitFields claimed r.keywords.required (.new scope₁.policy (some claimed)) scope₁
      r.properties).result = .ok (below, nested, scope₂)) :
    (emitNested (compose record key 0) 0 scope s).result =
      .ok ⟨⟨claimed, r.documentation?, below⟩ :: nested,
        if claimed == targetName record key depth r then none else some (depth, claimed),
        scope₂⟩ := by
  obtain ⟨rfl, rfl, hr⟩ := record?_eq_some hs
  rw [emitNested_eq, Nat.zero_add, emitObject, if_pos hr]
  refine Outcome.result_bind_eq_ok.mpr ⟨_, hclaim, ?_⟩
  exact Outcome.result_bind_eq_ok.mpr ⟨_, emitRecord_eq_ok hwalk, rfl⟩

/-- Every walk of `Emits` answers. -/
theorem Emits.ok (h : Emits record required own scope ps fields nested scope') :
    (emitFields record required own scope ps).result = .ok (fields, nested, scope') := by
  induction h with
  | nil record required own scope =>
    rw [emitFields]
    rfl
  | plain hs hname _ ih =>
    rw [emitFields_cons, emitNested_plain hs]
    refine Outcome.result_bind_eq_ok.mpr ⟨_, rfl, ?_⟩
    refine Outcome.result_bind_eq_ok.mpr ⟨_, hname, ?_⟩
    exact Outcome.result_bind_eq_ok.mpr ⟨_, ih, rfl⟩
  | record hs hclaim _ hname _ ihb ih =>
    rw [emitFields_cons]
    refine Outcome.result_bind_eq_ok.mpr ⟨_, emitNested_eq_ok hs hclaim ihb, ?_⟩
    refine Outcome.result_bind_eq_ok.mpr ⟨_, hname, ?_⟩
    exact Outcome.result_bind_eq_ok.mpr ⟨_, ih, rfl⟩

/-- **What a walk answers is what `Emits` says.** -/
theorem emits_iff :
    (emitFields record required own scope ps).result = .ok (fields, nested, scope') ↔
      Emits record required own scope ps fields nested scope' :=
  ⟨emits_of_ok, Emits.ok⟩

/-- A walk leaves the scope of the run as it was, with the names of its declarations in use. -/
theorem Emits.scope_eq (h : Emits record required own scope ps fields nested scope') :
    scope' = { scope with taken := (nested.map (·.name)).reverse ++ scope.taken } := by
  induction h with
  | nil record required own scope => rfl
  | plain _ _ _ ih => exact ih
  | record _ hclaim _ _ _ ihb ih =>
    obtain ⟨_, rfl, _⟩ := Scope.claim_ok hclaim
    rw [ih, ihb]
    simp [Scope.take]

/-! ## 3. A walk from a wider scope -/

/-- The names that are in use besides do not stand in the way of a walk that declares none of
    them. -/
theorem Emits.widen (h : Emits record required own scope ps fields nested scope')
    (hp : scope.policy = .refuse) {more : List String} (hfree : ∀ d ∈ nested, d.name ∉ more) :
    Emits record required own (scope.widen more) ps fields nested (scope'.widen more) := by
  induction h with
  | nil record required own scope => exact .nil record required own (scope.widen more)
  | plain hs hname _ ih => exact .plain hs hname (ih hp hfree)
  | @record record required own own' scope scope₁ scope₂ scope₃ key s rest depth r claimed below
      nested name fields others hs hclaim hbelow hname _ ihb ih =>
    -- the record comes first among its declarations, then those under it, then those behind it
    have hwide := (Scope.claim_widen_iff hp).mpr ⟨_, hclaim, rfl, hfree _ List.mem_cons_self⟩
    obtain ⟨_, rfl, _⟩ := Scope.claim_ok hclaim
    have hunder := ihb hp fun d hd =>
      hfree d (List.mem_cons_of_mem _ (List.mem_append_left _ hd))
    have hbehind := ih (hbelow.policy_eq.trans hp) fun d hd =>
      hfree d (List.mem_cons_of_mem _ (List.mem_append_right _ hd))
    exact .record hs hwide hunder hname hbehind

/-- **A walk from a wider scope** is one from the scope itself that declares none of the names that
    are in use besides. -/
theorem Emits.narrow {wide wide' : Scope}
    (h : Emits record required own wide ps fields nested wide') {more : List String}
    (hwide : wide = scope.widen more) (hp : scope.policy = .refuse) :
    ∃ scope', Emits record required own scope ps fields nested scope' ∧
      wide' = scope'.widen more ∧ ∀ d ∈ nested, d.name ∉ more := by
  induction h generalizing scope with
  | nil record required own _ =>
    exact ⟨scope, .nil record required own scope, hwide, fun d hd => nomatch hd⟩
  | plain hs hname _ ih =>
    obtain ⟨scope', hrest, e, hfree⟩ := ih hwide hp
    exact ⟨scope', .plain hs hname hrest, e, hfree⟩
  | record hs hclaim _ hname _ ihb ih =>
    subst hwide
    obtain ⟨scope₁, hclaim', rfl, hnew⟩ := (Scope.claim_widen_iff hp).mp hclaim
    obtain ⟨_, rfl, _⟩ := Scope.claim_ok hclaim'
    obtain ⟨scope₂, hbelow, rfl, hunder⟩ := ihb rfl hp
    obtain ⟨scope₃, hrest, rfl, hbehind⟩ := ih rfl (hbelow.policy_eq.trans hp)
    refine ⟨scope₃, .record hs hclaim' hbelow hname hrest, rfl, fun d hd => ?_⟩
    rcases List.mem_cons.mp hd with rfl | hd
    · exact hnew
    · exact (List.mem_append.mp hd).elim (hunder d) (hbehind d)

end Emits

/-! ## 4. Roots -/

/-- A root is emitted where its name is claimed and its properties are walked. -/
theorem emitRoot_eq_ok {schema : Schema} {root claimed : String} {scope scope₁ scope' : Scope}
    {fields : List Field} {nested : List Declaration}
    (hclaim : (scope.claim root).result = .ok (claimed, scope₁))
    (hwalk : Emits claimed schema.keywords.required (.new scope₁.policy (some claimed)) scope₁
      schema.properties fields nested scope') :
    (emitRoot schema root scope).result =
      .ok (⟨claimed, schema.documentation?, fields⟩ :: nested, scope') := by
  unfold emitRoot
  exact Outcome.result_bind_eq_ok.mpr ⟨_, hclaim, emitRecord_eq_ok (emits_iff.mpr hwalk)⟩

/-- A root leaves the scope of the run as it was, with the names of its declarations in use. -/
theorem emitRoot_scope_eq {schema : Schema} {root : String} {scope scope' : Scope}
    {declarations : List Declaration}
    (h : (emitRoot schema root scope).result = .ok (declarations, scope')) :
    scope' = { scope with taken := (declarations.map (·.name)).reverse ++ scope.taken } := by
  obtain ⟨claimed, scope₁, fields, nested, hclaim, hwalk, rfl⟩ := emitRoot_ok h
  obtain ⟨_, rfl, _⟩ := Scope.claim_ok hclaim
  rw [hwalk.scope_eq]
  simp [Scope.take]

/-- **A root from a wider scope** answers what it answers from the scope itself, as long as it
    declares none of the names that are in use besides. -/
theorem emitRoot_widen_iff {schema : Schema} {root : String} {scope wide' : Scope}
    (hp : scope.policy = .refuse) {more : List String} {declarations : List Declaration} :
    (emitRoot schema root (scope.widen more)).result = .ok (declarations, wide') ↔
      ∃ scope', (emitRoot schema root scope).result = .ok (declarations, scope') ∧
        wide' = scope'.widen more ∧ ∀ d ∈ declarations, d.name ∉ more := by
  constructor
  · intro h
    obtain ⟨claimed, wide₁, fields, nested, hclaim, hwalk, rfl⟩ := emitRoot_ok h
    obtain ⟨scope₁, hclaim', rfl, hnew⟩ := (Scope.claim_widen_iff hp).mp hclaim
    obtain ⟨_, rfl, _⟩ := Scope.claim_ok hclaim'
    obtain ⟨scope', hwalk', rfl, hfree⟩ := hwalk.narrow rfl hp
    exact ⟨scope', emitRoot_eq_ok hclaim' hwalk', rfl, List.forall_mem_cons.mpr ⟨hnew, hfree⟩⟩
  · rintro ⟨scope', h, rfl, hfree⟩
    obtain ⟨claimed, scope₁, fields, nested, hclaim, hwalk, rfl⟩ := emitRoot_ok h
    obtain ⟨hnew, hfree⟩ := List.forall_mem_cons.mp hfree
    have hwide := (Scope.claim_widen_iff hp).mpr ⟨_, hclaim, rfl, hnew⟩
    obtain ⟨_, rfl, _⟩ := Scope.claim_ok hclaim
    exact emitRoot_eq_ok hwide (hwalk.widen hp hfree)

end SchemaRecords.Record

namespace SchemaRecords

open Name Record

/-- A run over a schema emits its root in a scope without names. -/
theorem declarationsOfSchema_eq_ok {schema : Schema} {root word : String} {policy : Policy}
    (hp : Policy.ofName? word = some policy) {declarations : List Declaration} {scope : Scope}
    (h : (emitRoot schema root (.new policy none)).result = .ok (declarations, scope)) :
    (declarationsOfSchema schema root word).result = .ok declarations := by
  unfold declarationsOfSchema policyOf
  rw [hp]
  refine Outcome.result_bind_eq_ok.mpr ⟨policy, rfl, ?_⟩
  refine Outcome.result_mapError_eq_ok.mpr ?_
  exact Outcome.result_bind_eq_ok.mpr ⟨_, h, rfl⟩

end SchemaRecords

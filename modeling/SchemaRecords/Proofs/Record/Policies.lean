import SchemaRecords.Proofs.Record.Walk

/-!
# The two policies side by side

Two runs over the same input, one that refuses clashes and one that numbers names, go alike until a
name is taken; there the first ends and the second gives a warning.

* `Outcome.Quiet` -- no notice of an outcome is a warning;
* `Counterpart` -- a scope that refuses clashes, and the one that numbers and holds the same names;
* `Beside` -- a step of the first run and the same step of the second: the first answers exactly if
  the second answers without a warning, and then their answers are related as stated;
* `beside_claim`, `beside_emitFields` -- a claim is such a step, and so is a walk;
* `emitFields_numbers` -- under the policy that numbers, every walk answers;
* `numbering_conservative` -- so a run that numbers ends in no clash, and it answers without a
  warning exactly what a run that refuses answers.
-/

namespace SchemaRecords

/-! ## 1. Quiet outcomes -/

namespace Outcome

variable {ε δ α β γ ι : Type}

/-- No notice of the outcome is a warning. -/
def Quiet (x : Outcome ε α) : Prop := ∀ n ∈ x.log, n.isWarning = false

theorem quiet_done (a : α) : (done a : Outcome ε α).Quiet := fun _ hn => nomatch hn

theorem quiet_ofExcept (r : Except ε α) : (ofExcept r).Quiet := fun _ hn => nomatch hn

theorem quiet_bind_of_ok {x : Outcome ε α} {a : α} (h : x.result = .ok a)
    {f : α → Outcome ε β} : (x >>= f).Quiet ↔ x.Quiet ∧ (f a).Quiet := by
  rw [bind_of_ok h, Quiet, Quiet, Quiet]
  exact List.forall_mem_append

theorem quiet_of_quiet_bind {x : Outcome ε α} {f : α → Outcome ε β} (h : (x >>= f).Quiet) :
    x.Quiet := by
  cases hx : x.result with
  | ok a => exact ((quiet_bind_of_ok hx).mp h).1
  | error e =>
    rw [bind_of_error hx] at h
    exact h

/-! ## 2. Steps side by side -/

/-- **A step, and the same step under another policy**: the first answers exactly if the second
    answers without a warning, and then the two answers are related. -/
def Beside (rel : α → β → Prop) (x : Outcome ε α) (y : Outcome δ β) : Prop :=
  match x.result with
  | .ok a => y.Quiet ∧ ∃ b, y.result = .ok b ∧ rel a b
  | .error _ => y.Quiet → ∃ e, y.result = .error e

theorem beside_of_ok {rel : α → β → Prop} {x : Outcome ε α} {y : Outcome δ β} {a : α} {b : β}
    (hx : x.result = .ok a) (hy : y.result = .ok b) (hq : y.Quiet) (h : rel a b) :
    Beside rel x y := by
  unfold Beside
  rw [hx]
  exact ⟨hq, b, hy, h⟩

/-- A step that gives no warning stands beside itself. -/
theorem beside_self {x : Outcome ε α} (h : x.Quiet) : Beside Eq x x := by
  unfold Beside
  cases hx : x.result with
  | ok a => exact ⟨h, a, rfl, rfl⟩
  | error e => exact fun _ => ⟨e, rfl⟩

theorem Beside.mapError {rel : α → β → Prop} {x : Outcome ε α} {y : Outcome δ β}
    (h : Beside rel x y) (f : ε → γ) (g : δ → ι) : Beside rel (x.mapError f) (y.mapError g) := by
  unfold Beside at h ⊢
  rw [result_mapError]
  cases hx : x.result with
  | ok a =>
    rw [hx] at h
    obtain ⟨hq, b, hb, hr⟩ := h
    exact ⟨hq, b, result_mapError_eq_ok.mpr hb, hr⟩
  | error e =>
    rw [hx] at h
    intro hq
    obtain ⟨e', he⟩ := h hq
    exact ⟨g e', result_mapError_eq_error.mpr ⟨e', he, rfl⟩⟩

/-- Steps side by side, one after the other. -/
theorem Beside.bind {α' β' : Type} {rel : α → β → Prop} {rel' : α' → β' → Prop}
    {x : Outcome ε α} {y : Outcome δ β} {f : α → Outcome ε α'} {g : β → Outcome δ β'}
    (h : Beside rel x y) (hf : ∀ a b, rel a b → Beside rel' (f a) (g b)) :
    Beside rel' (x >>= f) (y >>= g) := by
  cases hx : x.result with
  | ok a =>
    unfold Beside at h
    rw [hx] at h
    obtain ⟨hq, b, hb, hr⟩ := h
    have hstep := hf a b hr
    unfold Beside at hstep ⊢
    rw [bind_of_ok hx]
    cases ha : (f a).result with
    | ok a' =>
      rw [ha] at hstep
      obtain ⟨hq', b', hb', hr'⟩ := hstep
      exact ⟨(quiet_bind_of_ok hb).mpr ⟨hq, hq'⟩, b', result_bind_eq_ok.mpr ⟨b, hb, hb'⟩, hr'⟩
    | error e =>
      rw [ha] at hstep
      intro hboth
      obtain ⟨e', he⟩ := hstep ((quiet_bind_of_ok hb).mp hboth).2
      exact ⟨e', by rw [bind_of_ok hb, he]⟩
  | error e =>
    unfold Beside at h ⊢
    rw [hx] at h
    rw [bind_of_error hx]
    intro hboth
    obtain ⟨e', he⟩ := h (quiet_of_quiet_bind hboth)
    exact ⟨e', by rw [bind_of_error he]⟩

/-- **What the first run answers is what the second answers without a warning.** -/
theorem Beside.ok_iff {x : Outcome ε α} {y : Outcome δ α} (h : Beside Eq x y) (a : α) :
    x.result = .ok a ↔ y.result = .ok a ∧ y.Quiet := by
  unfold Beside at h
  cases hx : x.result with
  | ok c =>
    rw [hx] at h
    obtain ⟨hq, b, hb, rfl⟩ := h
    rw [hb, Except.ok.injEq, Except.ok.injEq]
    exact ⟨fun e => ⟨e, hq⟩, fun e => e.1⟩
  | error e =>
    rw [hx] at h
    refine ⟨nofun, fun ⟨hb, hq⟩ => ?_⟩
    obtain ⟨e', he⟩ := h hq
    rw [hb] at he
    cases he

end Outcome

namespace Record

open Name Schema Outcome

/-! ## 3. Scopes and claims -/

/-- A scope that refuses clashes, and the one that numbers names and holds the same. -/
structure Counterpart (s t : Scope) : Prop where
  policy : s.policy = .refuse
  eq : t = { s with policy := .number }

theorem counterpart_new (owner : Option String) :
    Counterpart (.new .refuse owner) (.new .number owner) := ⟨rfl, rfl⟩

theorem Counterpart.take {s t : Scope} (h : Counterpart s t) (name : String) :
    Counterpart (s.take name) (t.take name) := by
  obtain ⟨hp, rfl⟩ := h
  exact ⟨hp, rfl⟩

theorem Counterpart.new {s t : Scope} (h : Counterpart s t) (owner : Option String) :
    Counterpart (.new s.policy owner) (.new t.policy owner) := by
  obtain ⟨hp, rfl⟩ := h
  rw [hp]
  exact counterpart_new owner

/-- The answers of two claims: the same name, from scopes that hold the same names. -/
def SameClaim (a b : String × Scope) : Prop := a.1 = b.1 ∧ Counterpart a.2 b.2

theorem isWarning_renamed (s : Scope) (name newName : String) :
    (s.renamed name newName).isWarning = true := by
  unfold Scope.renamed
  cases s.owner <;> rfl

/-- **A claim is refused exactly if it is answered with a warning.** -/
theorem beside_claim {s t : Scope} (h : Counterpart s t) (name : String) :
    Beside SameClaim (s.claim name) (t.claim name) := by
  have hmem : t.taken = s.taken := by rw [h.eq]
  have hnumber : t.policy = .number := by rw [h.eq]
  by_cases ht : name ∈ s.taken
  · have hs : (s.claim name).result = .error (s.clash name) := by
      rw [Scope.claim_refuse h.policy, if_pos ht]
    unfold Beside
    rw [hs]
    intro hq
    have hlog : (t.claim name).log = [t.renamed name (numbered name t.taken)] := by
      unfold Scope.claim
      rw [if_pos (hmem ▸ ht), hnumber]
    have hquiet := hq (t.renamed name (numbered name t.taken)) (hlog ▸ List.mem_singleton_self _)
    rw [isWarning_renamed] at hquiet
    cases hquiet
  · rw [Scope.claim_free ht, Scope.claim_free (hmem ▸ ht)]
    exact beside_of_ok rfl rfl (quiet_done _) ⟨rfl, h.take name⟩

/-! ## 4. One walk -/

/-- The answers of two walks: the same fields and declarations, and scopes that hold the same
    names. -/
def SameWalk (a b : List Field × List Declaration × Scope) : Prop :=
  a.1 = b.1 ∧ a.2.1 = b.2.1 ∧ Counterpart a.2.2 b.2.2

/-- The answers of two steps that emit a record. -/
def SameDeclarations (a b : List Declaration × Scope) : Prop :=
  a.1 = b.1 ∧ Counterpart a.2 b.2

/-- What two properties contribute besides their fields. -/
structure SameNested (a b : Nested) : Prop where
  declarations : a.declarations = b.declarations
  renamed : a.renamed = b.renamed
  scope : Counterpart a.scope b.scope

theorem quiet_declare (name : String) (description : Option String) (fields : List Field)
    (nested : List Declaration) : (declare name description fields nested).Quiet := by
  intro n hn
  rw [List.mem_singleton.mp hn]
  rfl

theorem beside_emitRecord {name : String} {description : Option String} {s t : Scope}
    {walk walk' : Scope → Outcome Clash (List Field × List Declaration × Scope)}
    (h : Counterpart s t)
    (hwalk : ∀ own own', Counterpart own own' → Beside SameWalk (walk own) (walk' own')) :
    Beside SameDeclarations (emitRecord name description s walk)
      (emitRecord name description t walk') := by
  unfold emitRecord
  refine (hwalk _ _ (h.new (some name))).bind ?_
  rintro ⟨fields, nested, s'⟩ ⟨fields', nested', t'⟩ ⟨rfl, rfl, hscope⟩
  refine (beside_self (quiet_declare name description fields nested)).bind ?_
  rintro declarations declarations' rfl
  exact beside_of_ok rfl rfl (quiet_done _) ⟨rfl, hscope⟩

/-- The walks over some properties go side by side wherever their scopes hold the same names. -/
def WalksBeside (ps : List (String × Schema)) : Prop :=
  ∀ {record : String} {required : List String} {own own' s t : Scope}, Counterpart own own' →
    Counterpart s t →
    Beside SameWalk (emitFields record required own s ps) (emitFields record required own' t ps)

theorem beside_emitNested {s r : Schema} {depth : Nat} (hs : s.record? = some (depth, r))
    (hwalk : WalksBeside r.properties) {record key : String} {scope scope' : Scope}
    (h : Counterpart scope scope') :
    Beside SameNested (emitNested (compose record key 0) 0 scope s)
      (emitNested (compose record key 0) 0 scope' s) := by
  obtain ⟨rfl, rfl, hr⟩ := record?_eq_some hs
  rw [emitNested_eq, emitNested_eq, emitObject, emitObject, if_pos hr, if_pos hr]
  refine (beside_claim h _).bind ?_
  rintro ⟨name, s₁⟩ ⟨name', t₁⟩ ⟨hname, h₁⟩
  obtain rfl : name = name' := hname
  refine (beside_emitRecord h₁ fun own own' hown => hwalk hown h₁).bind ?_
  rintro ⟨declarations, s₂⟩ ⟨declarations', t₂⟩ ⟨hd, h₂⟩
  obtain rfl : declarations = declarations' := hd
  exact beside_of_ok rfl rfl (quiet_done _) ⟨rfl, rfl, h₂⟩

/-- What is left of two walks once the property at hand has been emitted. -/
theorem beside_field {record : String} {key : String} {s : Schema} {required : List String}
    {rest : List (String × Schema)} (hwalk : WalksBeside rest) {own own' : Scope}
    (hown : Counterpart own own') {n n' : Nested} (hn : SameNested n n') :
    Beside SameWalk
      (do
        let (name, own) ← own.claim (pascal key)
        let (fields, more, scope) ← emitFields record required own n.scope rest
        return (fieldOf name key (required.contains key)
          (fieldType (compose record key 0) n.renamed s) s :: fields,
          n.declarations ++ more, scope))
      (do
        let (name, own) ← own'.claim (pascal key)
        let (fields, more, scope) ← emitFields record required own n'.scope rest
        return (fieldOf name key (required.contains key)
          (fieldType (compose record key 0) n'.renamed s) s :: fields,
          n'.declarations ++ more, scope)) := by
  refine (beside_claim hown _).bind ?_
  rintro ⟨name, own₁⟩ ⟨name', own₁'⟩ ⟨hname, hown₁⟩
  obtain rfl : name = name' := hname
  refine (hwalk hown₁ hn.scope).bind ?_
  rintro ⟨fields, more, s'⟩ ⟨fields', more', t'⟩ ⟨hf, hm, hscope⟩
  obtain rfl : fields = fields' := hf
  obtain rfl : more = more' := hm
  exact beside_of_ok rfl rfl (quiet_done _) ⟨by rw [hn.renamed], by rw [hn.declarations], hscope⟩

/-- **Two walks over the same properties go side by side.** -/
theorem beside_emitFields (ps : List (String × Schema)) : WalksBeside ps := by
  induction ps using properties_induction with
  | nil =>
    intro record required own own' s t _ h
    exact beside_of_ok rfl rfl (quiet_done _) ⟨rfl, rfl, h⟩
  | plain key s rest hs ih =>
    intro record required own own' scope scope' hown h
    have hnested : SameNested ⟨[], none, scope⟩ ⟨[], none, scope'⟩ := ⟨rfl, rfl, h⟩
    rw [emitFields_cons, emitFields_cons, emitNested_plain hs, emitNested_plain hs]
    refine (beside_of_ok rfl rfl (quiet_done _) hnested).bind ?_
    exact fun n n' hn => beside_field ih hown hn
  | record key s rest depth r hs ihr ih =>
    intro record required own own' scope scope' hown h
    rw [emitFields_cons, emitFields_cons]
    refine (beside_emitNested hs ihr h).bind ?_
    exact fun n n' hn => beside_field ih hown hn

theorem beside_emitRoot (schema : Schema) (root : String) {s t : Scope} (h : Counterpart s t) :
    Beside SameDeclarations (emitRoot schema root s) (emitRoot schema root t) := by
  unfold emitRoot
  refine (beside_claim h root).bind ?_
  rintro ⟨name, s₁⟩ ⟨name', t₁⟩ ⟨hname, h₁⟩
  obtain rfl : name = name' := hname
  exact beside_emitRecord h₁ fun own own' hown => beside_emitFields schema.properties hown h₁

/-! ## 5. Walks that number -/

/-- Under the policy that numbers, every claim is answered. -/
theorem claim_numbers {scope : Scope} (hp : scope.policy = .number) (name : String) :
    ∃ claimed, (scope.claim name).result = .ok (claimed, scope.take claimed) := by
  unfold Scope.claim
  split
  · rw [hp]
    exact ⟨_, rfl⟩
  · exact ⟨name, rfl⟩

/-- Under the policy that numbers, the walk over some properties answers. -/
def WalkAnswers (ps : List (String × Schema)) : Prop :=
  ∀ (record : String) (required : List String) {own scope : Scope}, own.policy = .number →
    scope.policy = .number →
    ∃ fields nested scope', scope'.policy = .number ∧
      (emitFields record required own scope ps).result = .ok (fields, nested, scope')

theorem emitNested_numbers {s r : Schema} {depth : Nat} (hs : s.record? = some (depth, r))
    (hwalk : WalkAnswers r.properties) (record key : String) {scope : Scope}
    (hp : scope.policy = .number) :
    ∃ n, n.scope.policy = .number ∧
      (emitNested (compose record key 0) 0 scope s).result = .ok n := by
  obtain ⟨rfl, rfl, hr⟩ := record?_eq_some hs
  rw [emitNested_eq, emitObject, if_pos hr]
  obtain ⟨claimed, hc⟩ := claim_numbers hp
    (TypeRef.ofSchema s.core (some (compose record key 0 ++ Name.items (0 + s.depth)))).name
  have htake : (scope.take claimed).policy = .number := hp
  have hnew : (Scope.new (scope.take claimed).policy (some claimed)).policy = .number := hp
  obtain ⟨fields, nested, scope', hp', hw⟩ := hwalk claimed s.core.keywords.required hnew htake
  refine ⟨_, ?_, result_bind_eq_ok.mpr ⟨_, hc,
    result_bind_eq_ok.mpr ⟨_, emitRecord_eq_ok hw, rfl⟩⟩⟩
  exact hp'

theorem field_numbers (record key : String) (s : Schema) (required : List String)
    {rest : List (String × Schema)} (hwalk : WalkAnswers rest) {own : Scope}
    (hown : own.policy = .number) {n : Nested} (hn : n.scope.policy = .number) :
    ∃ fields nested scope', scope'.policy = .number ∧
      ((do
        let (name, own) ← own.claim (pascal key)
        let (fields, more, scope) ← emitFields record required own n.scope rest
        return (fieldOf name key (required.contains key)
          (fieldType (compose record key 0) n.renamed s) s :: fields,
          n.declarations ++ more, scope)) : Outcome Clash _).result =
        .ok (fields, nested, scope') := by
  obtain ⟨claimed, hc⟩ := claim_numbers hown (pascal key)
  have htake : (own.take claimed).policy = .number := hown
  obtain ⟨fields, more, scope', hp', hw⟩ := hwalk record required htake hn
  exact ⟨_, _, scope', hp', result_bind_eq_ok.mpr ⟨_, hc, result_bind_eq_ok.mpr ⟨_, hw, rfl⟩⟩⟩

/-- **Under the policy that numbers, every walk answers.** -/
theorem emitFields_numbers (ps : List (String × Schema)) : WalkAnswers ps := by
  induction ps using properties_induction with
  | nil => exact fun _ _ _ _ _ hp => ⟨[], [], _, hp, rfl⟩
  | plain key s rest hs ih =>
    intro record required own scope hown hp
    have hnested : (Nested.mk [] none scope).scope.policy = .number := hp
    obtain ⟨fields, nested, scope', hp', hw⟩ := field_numbers record key s required ih hown hnested
    rw [emitFields_cons, emitNested_plain hs]
    exact ⟨fields, nested, scope', hp', result_bind_eq_ok.mpr ⟨_, rfl, hw⟩⟩
  | record key s rest depth r hs ihr ih =>
    intro record required own scope hown hp
    obtain ⟨n, hn, he⟩ := emitNested_numbers hs ihr record key hp
    obtain ⟨fields, nested, scope', hp', hw⟩ := field_numbers record key s required ih hown hn
    rw [emitFields_cons]
    exact ⟨fields, nested, scope', hp', result_bind_eq_ok.mpr ⟨n, he, hw⟩⟩

theorem emitRoot_numbers (schema : Schema) (root : String) {scope : Scope}
    (hp : scope.policy = .number) :
    ∃ declarations scope', scope'.policy = .number ∧
      (emitRoot schema root scope).result = .ok (declarations, scope') := by
  obtain ⟨claimed, hc⟩ := claim_numbers hp root
  have htake : (scope.take claimed).policy = .number := hp
  have hnew : (Scope.new (scope.take claimed).policy (some claimed)).policy = .number := hp
  obtain ⟨fields, nested, scope', hp', hw⟩ :=
    emitFields_numbers schema.properties claimed schema.keywords.required hnew htake
  exact ⟨_, scope', hp', result_bind_eq_ok.mpr ⟨_, hc, emitRecord_eq_ok hw⟩⟩

end Record

/-! ## 6. Runs -/

open Name Record Outcome

theorem policyOf_name (policy : Policy) : policyOf policy.name = .ok policy := by
  unfold policyOf
  rw [Policy.ofName?_name]

theorem declarationsOfSchema_name (schema : Schema) (root : String) (policy : Policy) :
    (declarationsOfSchema schema root policy.name) =
      (Record.ofSchema schema root policy).mapError .clash := by
  unfold declarationsOfSchema
  rw [policyOf_name]
  rfl

theorem declarationsOfTools_name (tools : List Tool) (policy : Policy) :
    declarationsOfTools tools policy.name = emitTools (.new policy none) tools := by
  unfold declarationsOfTools
  rw [policyOf_name]
  rfl

theorem beside_ofSchema (schema : Schema) (root : String) :
    Beside Eq (Record.ofSchema schema root .refuse) (Record.ofSchema schema root .number) := by
  unfold Record.ofSchema
  refine (beside_emitRoot schema root (counterpart_new none)).bind ?_
  rintro ⟨declarations, s⟩ ⟨declarations', t⟩ ⟨hd, _⟩
  exact beside_of_ok rfl rfl (quiet_done _) hd

theorem beside_emitTool (tool : Tool) {s t : Scope} (h : Counterpart s t) :
    Beside SameDeclarations (emitTool tool s) (emitTool tool t) := by
  unfold emitTool
  refine (beside_self (quiet_ofExcept _)).bind ?_
  rintro schema schema' rfl
  refine ((beside_emitRoot schema _ h).mapError _ _).bind ?_
  rintro ⟨declarations, s'⟩ ⟨declarations', t'⟩ ⟨hd, hscope⟩
  obtain rfl : declarations = declarations' := hd
  exact beside_of_ok rfl rfl (quiet_done _) ⟨rfl, hscope⟩

theorem beside_emitTools (tools : List Tool) {s t : Scope} (h : Counterpart s t) :
    Beside Eq (emitTools s tools) (emitTools t tools) := by
  induction tools generalizing s t with
  | nil => exact beside_self (quiet_done _)
  | cons tool rest ih =>
    rw [emitTools, emitTools]
    refine (beside_emitTool tool h).bind ?_
    rintro ⟨declarations, s'⟩ ⟨declarations', t'⟩ ⟨hd, hscope⟩
    obtain rfl : declarations = declarations' := hd
    refine (ih hscope).bind ?_
    rintro more more' rfl
    exact beside_self (quiet_done _)

/-- The parameters of a tool end in no clash, only in faults of their text. -/
theorem emitTool_numbers (tool : Tool) {scope : Scope} (hp : scope.policy = .number) :
    (∃ declarations scope', scope'.policy = .number ∧
      (emitTool tool scope).result = .ok (declarations, scope')) ∨
    ∃ fault, Schema.ofJson tool.parameters = .error fault ∧
      (emitTool tool scope).result = .error fault := by
  unfold emitTool
  cases hs : Schema.ofJson tool.parameters with
  | error fault => exact Or.inr ⟨fault, rfl, rfl⟩
  | ok schema =>
    obtain ⟨declarations, scope', hp', he⟩ := emitRoot_numbers schema (ofRequest tool.name) hp
    exact Or.inl ⟨_, scope', hp', result_bind_eq_ok.mpr ⟨schema, rfl,
      result_bind_eq_ok.mpr ⟨_, result_mapError_eq_ok.mpr he, rfl⟩⟩⟩

/-- No fault of a schema text is a clash. -/
theorem ofJson_ne_clash {text : String} {fault : Fault} (h : Schema.ofJson text = .error fault)
    (clash : Clash) : fault ≠ .clash clash := by
  unfold Schema.ofJson at h
  cases hv : Document.Value.ofJson text with
  | error e =>
    rw [hv] at h
    cases h
    cases e <;> exact nofun
  | ok value =>
    rw [hv] at h
    replace h : (Schema.ofValue value).mapError Fault.ofSchema = .error fault := h
    cases hw : Schema.ofValue value with
    | error e =>
      rw [hw] at h
      cases h
      cases e <;> exact nofun
    | ok schema =>
      rw [hw] at h
      cases h

theorem emitTools_ne_clash (tools : List Tool) {scope : Scope} (hp : scope.policy = .number)
    (clash : Clash) : (emitTools scope tools).result ≠ .error (.clash clash) := by
  induction tools generalizing scope with
  | nil => exact nofun
  | cons tool rest ih =>
    rw [emitTools]
    intro h
    rcases emitTool_numbers tool hp with ⟨declarations, scope', hp', he⟩ | ⟨fault, hf, he⟩
    · rcases result_bind_eq_error.mp h with h | ⟨first, hfirst, h⟩
      · rw [he] at h
        cases h
      · rw [he] at hfirst
        cases hfirst
        rcases result_bind_eq_error.mp h with h | ⟨more, _, h⟩
        · exact ih hp' h
        · cases h
    · rcases result_bind_eq_error.mp h with h | ⟨first, hfirst, _⟩
      · rw [he] at h
        cases h
        exact ofJson_ne_clash hf clash rfl
      · rw [he] at hfirst
        cases hfirst

/-- **Numbering is total and conservative over refusing.** A run that numbers ends in no clash, and
    over a schema it always answers; and what a run that refuses answers is what the run that
    numbers answers without a warning. -/
theorem numbering_conservative :
    (∀ (schema : Schema) (root : String),
      (∃ declarations, (declarationsOfSchema schema root "suffix").result = .ok declarations) ∧
      ∀ declarations, (declarationsOfSchema schema root "error").result = .ok declarations ↔
        (declarationsOfSchema schema root "suffix").result = .ok declarations ∧
          (declarationsOfSchema schema root "suffix").Quiet) ∧
    ∀ tools : List Tool,
      (∀ clash, (declarationsOfTools tools "suffix").result ≠ .error (.clash clash)) ∧
      ∀ declarations, (declarationsOfTools tools "error").result = .ok declarations ↔
        (declarationsOfTools tools "suffix").result = .ok declarations ∧
          (declarationsOfTools tools "suffix").Quiet := by
  refine ⟨fun schema root => ?_, fun tools => ?_⟩
  · rw [show "suffix" = Policy.number.name from rfl, show "error" = Policy.refuse.name from rfl,
      declarationsOfSchema_name, declarationsOfSchema_name]
    refine ⟨?_, ((beside_ofSchema schema root).mapError _ _).ok_iff⟩
    have hp : (Scope.new .number none).policy = .number := rfl
    obtain ⟨declarations, scope', _, he⟩ := emitRoot_numbers schema root hp
    exact ⟨declarations, result_mapError_eq_ok.mpr (result_bind_eq_ok.mpr ⟨_, he, rfl⟩)⟩
  · rw [show "suffix" = Policy.number.name from rfl, show "error" = Policy.refuse.name from rfl,
      declarationsOfTools_name, declarationsOfTools_name]
    exact ⟨emitTools_ne_clash tools rfl, (beside_emitTools tools (counterpart_new none)).ok_iff⟩

end SchemaRecords

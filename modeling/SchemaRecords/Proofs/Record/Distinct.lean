import SchemaRecords.Proofs.Record.Walk

/-!
# Names that are told apart

No two declarations of a run have the same name, and no two fields of a record.

* `NamesDistinct` -- what that says of a list of declarations;
* `Emits.taken_eq` -- the scope of the run holds, behind the names it held before, those of the
  declarations that a walk has emitted; `Emits.own_nodup` is the same for the fields of a record;
* `names_distinct` -- so the names of a run are distinct, since a scope never takes a name twice:
  that of a run over one schema, and that of a run over tools, whose scope goes from one tool to
  the next.
-/

namespace SchemaRecords.Record

open Name

/-- No two declarations with one name; in each of them no two fields with one name, and none with
    the name of the declaration. -/
structure NamesDistinct (declarations : List Declaration) : Prop where
  records : (declarations.map (·.name)).Nodup
  fields : ∀ d ∈ declarations, (d.fields.map (·.name)).Nodup
  owner : ∀ d ∈ declarations, d.name ∉ d.fields.map (·.name)

/-- The name of a record and those of its fields. -/
def Declaration.names (d : Declaration) : List String := d.name :: d.fields.map (·.name)

theorem namesDistinct_of {declarations : List Declaration}
    (hr : (declarations.map (·.name)).Nodup) (hf : ∀ d ∈ declarations, d.names.Nodup) :
    NamesDistinct declarations where
  records := hr
  fields := fun d hd => (List.nodup_cons.mp (hf d hd)).2
  owner := fun d hd => (List.nodup_cons.mp (hf d hd)).1

/-! ## 1. One walk -/

theorem nodup_of_claim_ok {scope scope' : Scope} {name claimed : String}
    (h : (scope.claim name).result = .ok (claimed, scope')) (hs : scope.taken.Nodup) :
    scope'.taken.Nodup := by
  obtain ⟨hfree, rfl, _⟩ := Scope.claim_ok h
  exact List.nodup_cons.mpr ⟨hfree, hs⟩

section Emits

variable {record : String} {required : List String} {own scope scope' : Scope}
  {ps : List (String × Schema)} {fields : List Field} {nested : List Declaration}

/-- **The scope of the run holds the names of the declarations emitted.** -/
theorem Emits.taken_eq (h : Emits record required own scope ps fields nested scope') :
    scope'.taken = (nested.map (·.name)).reverse ++ scope.taken := by
  induction h with
  | nil record required own scope => rfl
  | plain _ _ _ ih => exact ih
  | record _ hclaim _ _ _ ihb ih =>
    obtain ⟨_, rfl, _⟩ := Scope.claim_ok hclaim
    rw [ih, ihb]
    simp

/-- A walk leaves the names of the run distinct. -/
theorem Emits.run_nodup (h : Emits record required own scope ps fields nested scope')
    (hs : scope.taken.Nodup) : scope'.taken.Nodup := by
  induction h with
  | nil record required own scope => exact hs
  | plain _ _ _ ih => exact ih hs
  | record _ hclaim _ _ _ ihb ih => exact ih (ihb (nodup_of_claim_ok hclaim hs))

/-- **The fields of a record have distinct names**, and none that its scope held before. -/
theorem Emits.own_nodup (h : Emits record required own scope ps fields nested scope')
    (ho : own.taken.Nodup) : ((fields.map (·.name)).reverse ++ own.taken).Nodup := by
  induction h with
  | nil record required own scope => exact ho
  | plain _ hname _ ih =>
    have hrest := ih (nodup_of_claim_ok hname ho)
    obtain ⟨_, rfl, _⟩ := Scope.claim_ok hname
    rw [List.map_cons, List.reverse_cons, List.append_assoc]
    exact hrest
  | record _ _ _ hname _ _ ih =>
    have hrest := ih (nodup_of_claim_ok hname ho)
    obtain ⟨_, rfl, _⟩ := Scope.claim_ok hname
    rw [List.map_cons, List.reverse_cons, List.append_assoc]
    exact hrest

/-- The record whose fields are walked has no two names alike. -/
theorem Emits.names_nodup {policy : Policy} {documentation : Option String}
    (h : Emits record required (.new policy (some record)) scope ps fields nested scope') :
    (Declaration.mk record documentation fields).names.Nodup := by
  have hn := h.own_nodup (List.nodup_singleton record)
  rw [List.nodup_append_comm] at hn
  obtain ⟨hr, hf⟩ := List.nodup_cons.mp hn
  exact List.nodup_cons.mpr ⟨fun hmem => hr (List.mem_reverse.mpr hmem), List.nodup_reverse.mp hf⟩

/-- Nor has any record under it. -/
theorem Emits.nested_nodup (h : Emits record required own scope ps fields nested scope')
    {d : Declaration} (hd : d ∈ nested) : d.names.Nodup := by
  induction h with
  | nil record required own scope => cases hd
  | plain _ _ _ ih => exact ih hd
  | record _ _ hbelow _ _ ihb ih =>
    rcases List.mem_append.mp hd with hd | hd
    · rcases List.mem_cons.mp hd with rfl | hd
      · exact hbelow.names_nodup
      · exact ihb hd
    · exact ih hd

end Emits

/-! ## 2. Roots and tools -/

/-- A root leaves the names of the run distinct, and so are the names of each record under it. -/
theorem emitRoot_names {schema : Schema} {root : String} {scope scope' : Scope}
    {declarations : List Declaration}
    (h : (emitRoot schema root scope).result = .ok (declarations, scope'))
    (hs : scope.taken.Nodup) :
    scope'.taken = (declarations.map (·.name)).reverse ++ scope.taken ∧ scope'.taken.Nodup ∧
      ∀ d ∈ declarations, d.names.Nodup := by
  obtain ⟨claimed, scope₁, fields, nested, hc, hw, rfl⟩ := emitRoot_ok h
  refine ⟨?_, hw.run_nodup (nodup_of_claim_ok hc hs), fun d hd => ?_⟩
  · obtain ⟨_, rfl, _⟩ := Scope.claim_ok hc
    rw [hw.taken_eq]
    simp
  · rcases List.mem_cons.mp hd with rfl | hd
    · exact hw.names_nodup
    · exact hw.nested_nodup hd

end SchemaRecords.Record

namespace SchemaRecords

open Name Record

theorem map_name_documentRoot (description : String) (declarations : List Declaration) :
    (documentRoot description declarations).map (·.name) = declarations.map (·.name) := by
  cases declarations <;> rfl

theorem names_of_mem_documentRoot {description : String} {declarations : List Declaration}
    {d : Declaration} (hd : d ∈ documentRoot description declarations) :
    ∃ e ∈ declarations, d.names = e.names := by
  cases declarations with
  | nil => cases hd
  | cons root rest =>
    rcases List.mem_cons.mp hd with rfl | hd
    · exact ⟨root, List.mem_cons_self, rfl⟩
    · exact ⟨d, List.mem_cons_of_mem root hd, rfl⟩

/-- What the declarations of a tool do to the names of the run. -/
theorem emitTool_names {tool : Tool} {scope scope' : Scope} {declarations : List Declaration}
    (h : (emitTool tool scope).result = .ok (declarations, scope')) (hs : scope.taken.Nodup) :
    scope'.taken = (declarations.map (·.name)).reverse ++ scope.taken ∧ scope'.taken.Nodup ∧
      ∀ d ∈ declarations, d.names.Nodup := by
  obtain ⟨schema, plain, _, he, rfl⟩ := emitTool_ok h
  obtain ⟨ht, hn, hd⟩ := emitRoot_names he hs
  refine ⟨?_, hn, fun d hmem => ?_⟩
  · rw [map_name_documentRoot]
    exact ht
  · obtain ⟨e, hmem', hnames⟩ := names_of_mem_documentRoot hmem
    rw [hnames]
    exact hd e hmem'

/-- The declarations of tools, from a scope on: distinct from each other, and from all names that
    the scope holds. -/
theorem emitTools_names {tools : List Tool} {scope : Scope} {declarations : List Declaration}
    (h : (emitTools scope tools).result = .ok declarations) (hs : scope.taken.Nodup) :
    ((declarations.map (·.name)).reverse ++ scope.taken).Nodup ∧
      ∀ d ∈ declarations, d.names.Nodup := by
  induction tools generalizing scope declarations with
  | nil =>
    cases h
    exact ⟨hs, fun _ hd => absurd hd List.not_mem_nil⟩
  | cons tool rest ih =>
    obtain ⟨first, scope₁, more, ht, hm, rfl⟩ := emitTools_cons_ok h
    obtain ⟨he, hn, hf⟩ := emitTool_names ht hs
    obtain ⟨hmore, hd⟩ := ih hm hn
    refine ⟨?_, fun d hmem => ?_⟩
    · rw [List.map_append, List.reverse_append, List.append_assoc, ← he]
      exact hmore
    · exact (List.mem_append.mp hmem).elim (hf d) (hd d)

/-- **The names of a run are distinct**, under either policy: those of the declarations of a
    schema, and those of the declarations of tools, over all of them together. -/
theorem names_distinct :
    (∀ (schema : Schema) (root word : String) (declarations : List Declaration),
      (declarationsOfSchema schema root word).result = .ok declarations →
      NamesDistinct declarations) ∧
    ∀ (tools : List Tool) (word : String) (declarations : List Declaration),
      (declarationsOfTools tools word).result = .ok declarations →
      NamesDistinct declarations := by
  refine ⟨fun schema root word declarations h => ?_, fun tools word declarations h => ?_⟩
  · obtain ⟨policy, _, h⟩ := declarationsOfSchema_ok h
    unfold ofSchema at h
    obtain ⟨⟨emitted, scope⟩, he, h⟩ := Outcome.result_bind_eq_ok.mp h
    cases h
    obtain ⟨ht, hn, hd⟩ := emitRoot_names he List.nodup_nil
    rw [ht] at hn
    exact namesDistinct_of (List.nodup_reverse.mp (List.Nodup.of_append_left hn)) hd
  · unfold declarationsOfTools at h
    obtain ⟨policy, _, h⟩ := Outcome.result_bind_eq_ok.mp h
    obtain ⟨hn, hd⟩ := emitTools_names h List.nodup_nil
    exact namesDistinct_of (List.nodup_reverse.mp (List.Nodup.of_append_left hn)) hd

/-- Orders in an order: the record under `next` has the name of the root, and one of the fields
    too. -/
def orderChain : Schema :=
  .node { Keywords.none with kind := .object, required := ["next"] } none
    [("next",
      .node { Keywords.none with kind := .array }
        (some (.node { Keywords.none with kind := .object, title := some "order", nullable := true }
          none [("order", .node { Keywords.none with kind := .integer } none [])]))
        []),
      ("order", .node { Keywords.none with kind := .boolean } none [])]

/-- Its declarations, with a number behind each name that was taken. -/
def orderChainDeclarations : List Declaration :=
  [⟨"Order", none,
      [⟨"Next", "next", ⟨"IReadOnlyList<Order2>", false⟩, none, true⟩,
        ⟨"Order2", "order", ⟨"bool", true⟩, none, false⟩]⟩,
    ⟨"Order2", none, [⟨"Order", "order", ⟨"int", true⟩, none, false⟩]⟩]

/-- A tool whose only parameter has the name of its record. -/
def call : Tool :=
  { name := "call"
    description := "Calls."
    parameters := "\x7b\"type\": \"object\", \"properties\": \x7b\"call_request\": \x7b\x7d\x7d\x7d"
    result := ""
    metadata := [] }

/-- The declarations of that tool, listed twice. -/
def callDeclarations : List Declaration :=
  [⟨"CallRequest", some "Calls.",
      [⟨"CallRequest2", "call_request", ⟨"object", true⟩, none, false⟩]⟩,
    ⟨"CallRequest2", some "Calls.",
      [⟨"CallRequest", "call_request", ⟨"object", true⟩, none, false⟩]⟩]

theorem names_distinct_numbered :
    (declarationsOfSchema orderChain "Order" "suffix").result = .ok orderChainDeclarations ∧
      NamesDistinct orderChainDeclarations ∧
      (declarationsOfTools [call, call] "suffix").result = .ok callDeclarations ∧
      NamesDistinct callDeclarations := by
  have hs : (declarationsOfSchema orderChain "Order" "suffix").result =
      .ok orderChainDeclarations := by decide +kernel
  have ht : (declarationsOfTools [call, call] "suffix").result = .ok callDeclarations := by
    decide +kernel
  exact ⟨hs, names_distinct.1 _ _ _ _ hs, ht, names_distinct.2 _ _ _ ht⟩

end SchemaRecords

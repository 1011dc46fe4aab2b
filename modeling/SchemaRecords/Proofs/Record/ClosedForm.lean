import SchemaRecords.Proofs.Record.Naming
import SchemaRecords.Proofs.Schema.Path

/-!
# The declarations of a run in closed form

What a run that refuses clashes answers, read off the schema without a walk.

* `nameAt`, `fieldAt`, `declarationAt` -- the name of the record at the end of a path, a field of
  it, and its declaration;
* `Emits.closed` -- a walk in which no name is changed emits the declarations at the paths from
  its properties;
* `declarations_closed` -- so a run answers the declarations at the paths of its schema, in the
  order of the paths.
-/

namespace SchemaRecords.Record

open Name Schema

/-! ## 1. Records by their paths -/

/-- The name of the record one step below one of the given name. -/
def stepName (enclosing : String) (step : Step) : String :=
  match step.record.title? with
  | some title => pascal title
  | none => enclosing ++ pascal step.key ++ Name.items step.depth

/-- The name of the record at the end of a path. -/
def nameAt (root : String) (path : Path) : String := path.foldl stepName root

/-- The field of a property in a record of the given name with the given required keys. -/
def fieldAt (record : String) (required : List String) (key : String) (s : Schema) : Field :=
  let type := TypeRef.ofSchema s (some (record ++ pascal key))
  { name := pascal key
    key
    type := { type with isNullable := type.isNullable || !required.contains key }
    documentation := s.documentation?
    required := required.contains key }

/-- The fields of a record of the given name. -/
def fieldsAt (record : String) (required : List String) (ps : List (String × Schema)) :
    List Field :=
  ps.map fun (key, s) => fieldAt record required key s

/-- The declaration of the record at the end of a path. -/
def declarationAt (root : String) (schema : Schema) (path : Path) : Declaration :=
  let r := path.target schema
  let name := nameAt root path
  { name
    documentation := r.documentation?
    fields := fieldsAt name r.keywords.required r.properties }

theorem declarationAt_nil (root : String) (schema : Schema) :
    declarationAt root schema [] =
      ⟨root, schema.documentation?,
        fieldsAt root schema.keywords.required schema.properties⟩ := rfl

theorem fieldOf_eq_fieldAt (record : String) (required : List String) (key : String)
    (s : Schema) :
    fieldOf (pascal key) key (required.contains key)
      (fieldType (compose record key 0) none s) s = fieldAt record required key s := by
  unfold fieldOf fieldAt fieldType
  rw [compose_zero]
  cases required.contains key <;> simp [TypeRef.optional]

theorem stepName_eq_targetName {record : String} (h : Cased record) (position : Nat)
    (key : String) (depth : Nat) {r : Schema} (hr : r.isRecord = true) :
    stepName record ⟨position, key, depth, r⟩ = targetName record key depth r := by
  rw [targetName_eq h.ne_empty key depth hr, stepName]
  cases r.title? with
  | none => exact (h.compose key depth).pascal_eq.symm
  | some title => rfl

/-! ## 2. One walk -/

/-- **A walk that refuses clashes, in closed form.** -/
theorem Emits.closed {record : String} {required : List String} {own scope scope' : Scope}
    {ps : List (String × Schema)} {fields : List Field} {nested : List Declaration}
    (h : Emits record required own scope ps fields nested scope') (ho : own.policy = .refuse)
    (hs : scope.policy = .refuse) (hrecord : Cased record) (hw : Worded ps) (position : Nat)
    (schema : Schema) :
    fields = fieldsAt record required ps ∧
      nested = (pathsFrom position ps).map (declarationAt record schema) := by
  induction h generalizing position schema with
  | nil record required own scope =>
    rw [pathsFrom_nil]
    exact ⟨rfl, rfl⟩
  | plain hplain hname _ ih =>
    have e := Scope.eq_of_claim_refuse ho hname
    subst e
    obtain ⟨_, rfl, _⟩ := Scope.claim_ok hname
    obtain ⟨hf, hn⟩ := ih ho hs hrecord hw.tail (position + 1) schema
    rw [pathsFrom_plain hplain, fieldOf_eq_fieldAt, hf]
    exact ⟨rfl, hn⟩
  | @record record required own own' scope scope₁ scope₂ scope₃ key s rest depth r claimed below
      nested name fields more hrec hclaim hbelow hname _ ihb ih =>
    obtain ⟨_, _, hr⟩ := record?_eq_some hrec
    have hcased := cased_of_claim
      (cased_targetName hrecord.hasWord key depth hr (hw.record hrec)) hclaim
    -- neither the record nor the field gets another name than the one it asks for
    have hclaimed := Scope.eq_of_claim_refuse hs hclaim
    have hfield := Scope.eq_of_claim_refuse ho hname
    subst hclaimed hfield
    obtain ⟨_, rfl, _⟩ := Scope.claim_ok hclaim
    obtain ⟨_, rfl, _⟩ := Scope.claim_ok hname
    obtain ⟨hfb, hnb⟩ := ihb hs hs hcased (worded_properties (hw.record hrec)) 0 r
    obtain ⟨hf, hn⟩ := ih ho (hbelow.policy_eq.trans hs) hrecord hw.tail (position + 1) schema
    have hstep := stepName_eq_targetName hrecord position key depth hr
    refine ⟨?_, ?_⟩
    · rw [beq_self_eq_true, if_pos rfl, fieldOf_eq_fieldAt, hf]
      rfl
    · have hmap : (r.paths.map (⟨position, key, depth, r⟩ :: ·)).map (declarationAt record schema)
          = r.paths.map (declarationAt (targetName record key depth r) r) := by
        rw [List.map_map, ← hstep]
        rfl
      rw [pathsFrom_record hrec, List.map_append, hmap, ← hn, paths, List.map_cons, ← hnb,
        declarationAt_nil, hfb]

/-! ## 3. A run -/

/-- **A run in closed form.** Under a root that is a cased name, and where the titles have words,
    a run that answers declares the record at each path of the schema, in the order of the paths,
    and those are the paths that lead to a record of it. -/
theorem declarations_closed {schema : Schema} {root : String} {declarations : List Declaration}
    (hroot : root ≠ "") (hcased : pascal root = root)
    (htitles : ∀ title ∈ schema.titles, hasWord title = true)
    (h : (declarationsOfSchema schema root "error").result = .ok declarations) :
    declarations = schema.paths.map (declarationAt root schema) ∧
      (∀ path, path ∈ schema.paths ↔ schema.Leads path) ∧
      schema.paths.Pairwise Path.Before := by
  refine ⟨?_, fun path => mem_paths, paths_sorted schema⟩
  obtain ⟨policy, hp, h⟩ := declarationsOfSchema_ok h
  obtain rfl : policy = .refuse := by
    rw [show "error" = Policy.refuse.name from rfl, Policy.ofName?_name] at hp
    cases hp
    rfl
  obtain ⟨fields, nested, scope', hw, rfl⟩ := ofSchema_ok h
  obtain ⟨hf, hn⟩ := hw.closed rfl rfl ⟨hroot, hcased⟩ (worded_properties htitles) 0 schema
  rw [paths, List.map_cons, declarationAt_nil, ← hn, ← hf]

/-- An order with lines in pages and an address with a title. -/
def order : Schema :=
  .node { Keywords.none with kind := .object, required := ["lines"] } none
    [("lines",
      .node { Keywords.none with kind := .array }
        (some (.node { Keywords.none with kind := .array }
          (some (.node { Keywords.none with kind := .object, description := some "A line." } none
            [("sku", .node { Keywords.none with kind := .string, format := some "uuid" } none [])]))
          []))
        []),
      ("address",
        .node { Keywords.none with kind := .object, title := some "post address" } none [])]

/-- Its declarations. -/
def orderDeclarations : List Declaration :=
  [⟨"Order", none,
      [⟨"Lines", "lines", ⟨"IReadOnlyList<IReadOnlyList<OrderLinesItemItem>>", false⟩, none, true⟩,
        ⟨"Address", "address", ⟨"PostAddress", true⟩, none, false⟩]⟩,
    ⟨"OrderLinesItemItem", some "A line.", [⟨"Sku", "sku", ⟨"Guid", true⟩, none, false⟩]⟩,
    ⟨"PostAddress", none, []⟩]

theorem declarations_closed_order :
    (declarationsOfSchema order "Order" "error").result = .ok orderDeclarations ∧
      orderDeclarations = order.paths.map (declarationAt "Order" order) := by
  have h : (declarationsOfSchema order "Order" "error").result = .ok orderDeclarations := by
    decide +kernel
  have hw : ∀ title ∈ order.titles, hasWord title = true := by decide +kernel
  exact ⟨h, (declarations_closed (by decide) (by decide +kernel) hw h).1⟩

end SchemaRecords.Record

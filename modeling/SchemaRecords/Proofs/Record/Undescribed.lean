import SchemaRecords.Proofs.Record.Walk

/-!
# Descriptions and declarations

What the descriptions of a schema can do to its declarations: they become their documentation, and
decide nothing else.

* `Schema.undescribed` -- a schema without its descriptions, at any depth;
* `Declaration.undocumented` -- a declaration without documentation, and without that of its
  fields;
* `ofSchema_undescribed` -- a type does not hang on descriptions;
* `undocumented_emitFields`, `undocumented_emitRoot` -- **the walk over a schema without
  descriptions is the walk over the schema**, with the same claims, the same notices and the same
  faults, and what it emits only lacks documentation.
-/

namespace SchemaRecords

/-! ## 1. Schemas without descriptions -/

/-- The keywords without the description. -/
def Keywords.undescribed (k : Keywords) : Keywords := { k with description := Option.none }

namespace Schema

mutual

/-- A schema without its descriptions, at any depth. -/
def undescribed : Schema → Schema
  | .node k items properties =>
      let below := undescribedIn properties
      match items with
      | some item => .node k.undescribed (some item.undescribed) below
      | none => .node k.undescribed none below

/-- Properties without the descriptions of their schemas. -/
def undescribedIn : List (String × Schema) → List (String × Schema)
  | [] => []
  | (key, s) :: rest => (key, s.undescribed) :: undescribedIn rest

end

theorem undescribed_node (k : Keywords) (items : Option Schema)
    (properties : List (String × Schema)) :
    undescribed (.node k items properties) =
      .node k.undescribed (items.map undescribed) (undescribedIn properties) := by
  cases items <;> simp [undescribed]

@[simp] theorem keywords_undescribed (s : Schema) :
    s.undescribed.keywords = s.keywords.undescribed := by
  obtain ⟨k, items, properties⟩ := s
  rw [undescribed_node]
  rfl

@[simp] theorem properties_undescribed (s : Schema) :
    s.undescribed.properties = undescribedIn s.properties := by
  obtain ⟨k, items, properties⟩ := s
  rw [undescribed_node]
  rfl

@[simp] theorem isEmpty_undescribedIn (ps : List (String × Schema)) :
    (undescribedIn ps).isEmpty = ps.isEmpty := by
  cases ps <;> rfl

@[simp] theorem documentation?_undescribed (s : Schema) : s.undescribed.documentation? = none := by
  rw [documentation?, keywords_undescribed]
  rfl

theorem item?_undescribed (s : Schema) : s.undescribed.item? = s.item?.map undescribed := by
  obtain ⟨k, items, properties⟩ := s
  rw [undescribed_node]
  unfold item?
  rw [apply_ite (Option.map undescribed), Option.map_none]
  rfl

theorem depth_undescribed (s : Schema) : s.undescribed.depth = s.depth := by
  induction s using array_induction with
  | leaf s h =>
    have hitem : s.undescribed.item? = none := by rw [item?_undescribed, h, Option.map_none]
    rw [depth_of_item?_none h, depth_of_item?_none hitem]
  | array s item h ih =>
    have hitem : s.undescribed.item? = some item.undescribed := by
      rw [item?_undescribed, h, Option.map_some]
    rw [depth_of_item?_some h, depth_of_item?_some hitem, ih]

theorem core_undescribed (s : Schema) : s.undescribed.core = s.core.undescribed := by
  induction s using array_induction with
  | leaf s h =>
    have hitem : s.undescribed.item? = none := by rw [item?_undescribed, h, Option.map_none]
    rw [core_of_item?_none h, core_of_item?_none hitem]
  | array s item h ih =>
    have hitem : s.undescribed.item? = some item.undescribed := by
      rw [item?_undescribed, h, Option.map_some]
    rw [core_of_item?_some h, core_of_item?_some hitem, ih]

@[simp] theorem isRecord_undescribed (s : Schema) : s.undescribed.isRecord = s.isRecord := by
  unfold isRecord reference? title?
  rw [keywords_undescribed, properties_undescribed, isEmpty_undescribedIn]
  rfl

/-- What a schema comes to without descriptions is what it comes to, without descriptions. -/
theorem record?_undescribed (s : Schema) :
    s.undescribed.record? = s.record?.map fun r => (r.1, r.2.undescribed) := by
  unfold record?
  rw [core_undescribed, isRecord_undescribed, depth_undescribed]
  split <;> rfl

theorem retitle_undescribed (name : String) :
    ∀ (depth : Nat) (s : Schema),
      s.undescribed.retitle name depth = (s.retitle name depth).undescribed
  | 0, .node k items properties => by
    rw [retitle, undescribed_node, undescribed_node]
    rfl
  | depth + 1, .node k (some item) properties => by
    rw [retitle, undescribed_node, undescribed_node, Option.map_some, Option.map_some, retitle,
      retitle_undescribed name depth item]
  | depth + 1, .node k none properties => by
    rw [retitle, undescribed_node]
    rfl

end Schema

/-! ## 2. Types -/

open Schema

/-- **A type does not hang on descriptions.** -/
theorem TypeRef.ofSchemaIn_undescribed :
    ∀ (context : Option String) (s : Schema),
      ofSchemaIn context s.undescribed = ofSchemaIn context s
  | context, .node k none properties => by
    rw [undescribed_node]
    simp only [Option.map_none, ofSchemaIn, Keywords.undescribed, isEmpty_undescribedIn]
  | context, .node k (some item) properties => by
    have hitem := ofSchemaIn_undescribed (itemContext context) item
    rw [undescribed_node]
    simp only [Option.map_some, ofSchemaIn, Keywords.undescribed, isEmpty_undescribedIn, hitem]

theorem TypeRef.ofSchema_undescribed (context : Option String) (s : Schema) :
    ofSchema s.undescribed context = ofSchema s context :=
  ofSchemaIn_undescribed (present? context) s

namespace Record

open Name

theorem fieldType_undescribed (composed : String) (renamed : Option (Nat × String)) (s : Schema) :
    fieldType composed renamed s.undescribed = fieldType composed renamed s := by
  cases renamed with
  | none => exact TypeRef.ofSchema_undescribed _ s
  | some r =>
    obtain ⟨depth, name⟩ := r
    unfold fieldType
    simp only
    rw [retitle_undescribed, TypeRef.ofSchema_undescribed]

/-! ## 3. Declarations without documentation -/

/-- A field without documentation. -/
def Field.undocumented (f : Field) : Field := { f with documentation := none }

/-- A declaration without documentation, and without that of its fields. -/
def Declaration.undocumented (d : Declaration) : Declaration :=
  { d with documentation := none, fields := d.fields.map Field.undocumented }

/-- Declarations, and the scope after them. -/
def undocumented (r : List Declaration × Scope) : List Declaration × Scope :=
  (r.1.map Declaration.undocumented, r.2)

/-- What a walk answers. -/
def undocumentedWalk (r : List Field × List Declaration × Scope) :
    List Field × List Declaration × Scope :=
  (r.1.map Field.undocumented, r.2.1.map Declaration.undocumented, r.2.2)

/-- What a property contributes. -/
def Nested.undocumented (n : Nested) : Nested :=
  { n with declarations := n.declarations.map Declaration.undocumented }

theorem fieldOf_undescribed (name key : String) (required : Bool) (type : TypeRef) (s : Schema) :
    fieldOf name key required type s.undescribed =
      (fieldOf name key required type s).undocumented := by
  unfold fieldOf
  rw [documentation?_undescribed]
  rfl

/-! ## 4. The walk -/

theorem undocumented_declare (name : String) (description : Option String) (fields : List Field)
    (nested : List Declaration) :
    List.map Declaration.undocumented <$> declare name description fields nested =
      declare name none (fields.map Field.undocumented)
        (nested.map Declaration.undocumented) := by
  unfold declare
  rw [List.length_map]
  rfl

/-- A record is emitted without documentation where its properties are walked without
    descriptions. -/
theorem undocumented_emitRecord {name : String} {description : Option String} {scope : Scope}
    {walk walk' : Scope → Outcome Clash (List Field × List Declaration × Scope)}
    (h : ∀ own, undocumentedWalk <$> walk own = walk' own) :
    undocumented <$> emitRecord name description scope walk =
      emitRecord name none scope walk' := by
  unfold emitRecord
  rw [map_bind, ← h, bind_map_left]
  congr
  funext r
  obtain ⟨fields, nested, after⟩ := r
  show _ = declare name none (fields.map Field.undocumented)
    (nested.map Declaration.undocumented) >>= fun declarations => pure (declarations, after)
  rw [map_bind, ← undocumented_declare name description, bind_map_left]
  rfl

/-- What lies under a property that leads to a record. -/
theorem undocumented_emitNested {s r : Schema} {depth : Nat} (hs : s.record? = some (depth, r))
    (ih : ∀ (record : String) (required : List String) (own scope : Scope),
      undocumentedWalk <$> emitFields record required own scope r.properties =
        emitFields record required own scope (undescribedIn r.properties))
    (composed : String) (scope : Scope) :
    Nested.undocumented <$> emitNested composed 0 scope s =
      emitNested composed 0 scope s.undescribed := by
  obtain ⟨rfl, rfl, hr⟩ := record?_eq_some hs
  rw [emitNested_eq, emitNested_eq, core_undescribed, depth_undescribed, emitObject, emitObject,
    if_pos hr, isRecord_undescribed, if_pos hr, TypeRef.ofSchema_undescribed,
    keywords_undescribed, properties_undescribed, map_bind]
  congr
  funext claimed
  obtain ⟨name, after⟩ := claimed
  have hrecord : undocumented <$> emitRecord name s.core.keywords.description after (fun own =>
        emitFields name s.core.keywords.required own after s.core.properties) =
      emitRecord name none after fun own =>
        emitFields name s.core.keywords.required own after (undescribedIn s.core.properties) :=
    undocumented_emitRecord fun own => ih name s.core.keywords.required own after
  show _ = emitRecord name none after (fun own =>
    emitFields name s.core.keywords.required own after (undescribedIn s.core.properties)) >>= _
  rw [map_bind, ← hrecord, bind_map_left]
  rfl

/-- The field of a property and what comes after it. -/
theorem undocumented_field {rest : List (String × Schema)}
    (ih : ∀ (record : String) (required : List String) (own scope : Scope),
      undocumentedWalk <$> emitFields record required own scope rest =
        emitFields record required own scope (undescribedIn rest))
    (record : String) (required : List String) (own scope : Scope) (key : String) (s : Schema)
    (hs : Nested.undocumented <$> emitNested (compose record key 0) 0 scope s =
      emitNested (compose record key 0) 0 scope s.undescribed) :
    undocumentedWalk <$> emitFields record required own scope ((key, s) :: rest) =
      emitFields record required own scope (undescribedIn ((key, s) :: rest)) := by
  -- the records under the property first, then the name of its field, then the other properties
  rw [undescribedIn, emitFields_cons, emitFields_cons, ← hs, map_bind, bind_map_left]
  congr
  funext n
  rw [map_bind]
  congr
  funext claimed
  obtain ⟨name, after⟩ := claimed
  show _ = emitFields record required after n.scope (undescribedIn rest) >>= _
  rw [map_bind, ← ih, bind_map_left]
  congr
  funext r
  obtain ⟨fields, more, last⟩ := r
  simp only [map_pure, undocumentedWalk, fieldType_undescribed, fieldOf_undescribed,
    List.map_cons, List.map_append]
  rfl

/-- **The walk over properties without descriptions** is the walk over the properties, and what it
    emits lacks documentation. -/
theorem undocumented_emitFields (ps : List (String × Schema)) :
    ∀ (record : String) (required : List String) (own scope : Scope),
      undocumentedWalk <$> emitFields record required own scope ps =
        emitFields record required own scope (undescribedIn ps) := by
  induction ps using properties_induction with
  | nil =>
    intro record required own scope
    simp only [undescribedIn, emitFields]
    rfl
  | plain key s rest hs ih =>
    intro record required own scope
    have hplain : s.undescribed.record? = none := by rw [record?_undescribed, hs, Option.map_none]
    refine undocumented_field ih record required own scope key s ?_
    rw [emitNested_plain hs, emitNested_plain hplain]
    rfl
  | record key s rest depth r hs ihr ih =>
    intro record required own scope
    refine undocumented_field ih record required own scope key s ?_
    exact undocumented_emitNested hs ihr (compose record key 0) scope

/-- **The run over a schema without descriptions** is the run over the schema, and what it emits
    lacks documentation. -/
theorem undocumented_emitRoot (s : Schema) (root : String) (scope : Scope) :
    undocumented <$> emitRoot s root scope = emitRoot s.undescribed root scope := by
  unfold emitRoot
  rw [keywords_undescribed, properties_undescribed, map_bind]
  congr
  funext claimed
  obtain ⟨name, after⟩ := claimed
  exact undocumented_emitRecord fun own =>
    undocumented_emitFields s.properties name s.keywords.required own after

end Record

/-! ## 5. Runs -/

open Name Record

/-- Reading faults in another way does not touch the result. -/
theorem Outcome.map_mapError {ε δ α β : Type} (f : α → β) (g : ε → δ) (x : Outcome ε α) :
    f <$> x.mapError g = (f <$> x).mapError g := by
  rw [map_eq_pure_bind, map_eq_pure_bind, mapError_bind]
  rfl

/-- **The declarations of a schema without descriptions** are those of the schema without
    documentation. -/
theorem undocumented_declarationsOfSchema (s : Schema) (root word : String) :
    List.map Declaration.undocumented <$> declarationsOfSchema s root word =
      declarationsOfSchema s.undescribed root word := by
  unfold declarationsOfSchema
  rw [map_bind]
  congr
  funext policy
  rw [Outcome.map_mapError]
  congr
  unfold Record.ofSchema
  rw [← undocumented_emitRoot, map_bind, bind_map_left]
  rfl

theorem map_undocumented_documentRoot (description : String) (declarations : List Declaration) :
    (documentRoot description declarations).map Declaration.undocumented =
      declarations.map Declaration.undocumented := by
  cases declarations <;> rfl

/-- What a tool adds, without documentation, hangs on its name and on its parameters without
    descriptions. -/
theorem undocumented_emitTool (tool : Tool) (scope : Scope) :
    undocumented <$> emitTool tool scope =
      Outcome.ofExcept ((Schema.ofJson tool.parameters).map undescribed) >>= fun schema =>
        (emitRoot schema (ofRequest tool.name) scope).mapError .clash := by
  unfold emitTool
  cases Schema.ofJson tool.parameters with
  | error fault => rfl
  | ok schema =>
    rw [map_bind]
    show _ = (emitRoot schema.undescribed (ofRequest tool.name) scope).mapError Fault.clash
    rw [← undocumented_emitRoot, ← Outcome.map_mapError, map_eq_pure_bind]
    show (_ >>= _ : Outcome Fault (List Declaration × Scope)) = _
    simp only [map_bind, map_pure, undocumented, map_undocumented_documentRoot]
    rfl

/-- The tools after a tool see only the names that it took. -/
theorem undocumented_emitTools_cons (tool : Tool) (rest : List Tool) (scope : Scope) :
    List.map Declaration.undocumented <$> emitTools scope (tool :: rest) =
      undocumented <$> emitTool tool scope >>= fun first => do
        let more ← List.map Declaration.undocumented <$> emitTools first.2 rest
        return first.1 ++ more := by
  rw [emitTools, map_bind, bind_map_left]
  congr
  funext first
  obtain ⟨declarations, after⟩ := first
  show List.map Declaration.undocumented <$> (emitTools after rest >>= fun more =>
    pure (declarations ++ more)) = _
  rw [map_bind, bind_map_left]
  congr
  funext more
  rw [map_pure, List.map_append]
  rfl

/-- The tools have the same name, and the same parameters but for descriptions. -/
def Tool.SameTask (tool other : Tool) : Prop :=
  tool.name = other.name ∧
    (Schema.ofJson tool.parameters).map undescribed =
      (Schema.ofJson other.parameters).map undescribed

theorem undocumented_emitTools {tools others : List Tool}
    (h : List.Forall₂ Tool.SameTask tools others) (scope : Scope) :
    List.map Declaration.undocumented <$> emitTools scope tools =
      List.map Declaration.undocumented <$> emitTools scope others := by
  induction h generalizing scope with
  | nil => rfl
  | @cons tool other rest more hsame _ ih =>
    obtain ⟨hname, hparameters⟩ := hsame
    rw [undocumented_emitTools_cons, undocumented_emitTools_cons, undocumented_emitTool,
      undocumented_emitTool, hname, hparameters]
    congr
    funext first
    rw [ih]

/-- **Tools with the same tasks** have the same declarations, but for documentation. -/
theorem undocumented_declarationsOfTools {tools others : List Tool}
    (h : List.Forall₂ Tool.SameTask tools others) (word : String) :
    List.map Declaration.undocumented <$> declarationsOfTools tools word =
      List.map Declaration.undocumented <$> declarationsOfTools others word := by
  unfold declarationsOfTools
  rw [map_bind, map_bind]
  congr
  funext policy
  exact undocumented_emitTools h (.new policy none)

end SchemaRecords

import SchemaRecords.Proofs.Nullable

/-!
# What the context is for

The name of a type is that of what the schema comes to through its arrays, with a list written
around it for each of them. The context of that core is the given one with the mark of the arrays
behind it, and only an object that has properties and no title reads it.

* `listsOf_eq` -- lists around a name, written out;
* `NamedByContext` -- an object that is named by its context; `reached` -- the type of a core in
  its own context, as it stands there;
* `ofSchema_eq` -- where the core is no such object, the context does not matter;
* `type_in_context` -- the name in closed form, and what the context is for.
-/

namespace SchemaRecords.TypeRef

open Schema Name

variable {schema : Schema} {context : Option String}

/-! ## 1. Lists, written out -/

/-- A text, `count` times. -/
def times (count : Nat) (part : String) : String := String.join (List.replicate count part)

/-- **Lists around a name**: what opens each of them, the name, and what closes each. -/
theorem listsOf_eq (depth : Nat) (name : String) :
    listsOf depth name = times depth "IReadOnlyList<" ++ name ++ times depth ">" := by
  induction depth with
  | zero => simp [listsOf, times]
  | succ depth ih =>
    have hopen : times (depth + 1) "IReadOnlyList<" =
        "IReadOnlyList<" ++ times depth "IReadOnlyList<" := by
      simp [times, List.replicate_succ]
    have hclose : times (depth + 1) ">" = times depth ">" ++ ">" := by
      simp [times, List.replicate_succ']
    rw [listsOf, listOf, ih, hopen, hclose]
    simp only [String.append_assoc]

/-! ## 2. The type of a core -/

/-- An object that is no reference, has no title and has properties. -/
def NamedByContext (schema : Schema) : Prop :=
  schema.reference? = none ∧ schema.keywords.kind = .object ∧ schema.title? = none ∧
    schema.properties ≠ []

instance (schema : Schema) : Decidable (NamedByContext schema) :=
  decidable_of_iff (schema.reference? = none ∧ schema.keywords.kind = .object ∧
    schema.title? = none ∧ schema.properties.isEmpty = false) (by simp [NamedByContext])

/-- The context of the core of a schema: the given one with one mark for each array behind it, or
    none where none is given. -/
def contextOfCore (schema : Schema) (context : Option String) : Option String :=
  (present? context).map (· ++ Name.items schema.depth)

/-- The type of the core of a schema in its context: its name, or what is written for it where it
    stands in a list. -/
def reached (schema : Schema) (context : Option String) : String :=
  let type := ofSchema schema.core (contextOfCore schema context)
  if schema.depth = 0 then type.name else type.render

theorem present?_contextOfCore (schema : Schema) (context : Option String) :
    present? (contextOfCore schema context) = coreContext (present? context) schema.depth := by
  unfold contextOfCore coreContext
  cases h : present? context with
  | none => rfl
  | some c =>
    have hc : c ≠ "" := by simpa using (Option.filter_eq_some_iff.mp h).2
    have happend : c ++ Name.items schema.depth ≠ "" := fun e =>
      hc (String.append_eq_empty_iff.mp e).1
    simp [present?, Option.filter, happend]

theorem render_eq_marked (schema : Schema) (context : Option String) :
    (ofSchemaIn context schema).render =
      marked schema.keywords.nullable (ofSchemaIn context schema).name := by
  rw [ofSchemaIn_eq_ofName, render_ofName, name_ofName]

/-- The type of a core that its context does not name is the same in every context. -/
theorem ofSchemaIn_core (hitem : schema.item? = none) (h : ¬NamedByContext schema)
    (context other : Option String) : ofSchemaIn context schema = ofSchemaIn other schema := by
  rw [ofSchemaIn_eq_ofName, ofSchemaIn_eq_ofName other]
  congr 1
  cases hrecord : schema.isRecord with
  | false =>
    have hplain := fun c => (name_of_not_isRecord hitem hrecord c).1
    rw [hplain context, hplain other]
  | true =>
    obtain ⟨hr, hk, hnames⟩ := isRecord_iff.mp hrecord
    obtain ⟨title, ht⟩ : ∃ title, schema.title? = some title := by
      cases ht : schema.title? with
      | some title => exact ⟨title, rfl⟩
      | none =>
        rw [ht] at hnames
        have hproperties : schema.properties ≠ [] := by simpa using hnames
        exact absurd ⟨hr, hk, ht, hproperties⟩ h
    rw [name_of_title hrecord ht, name_of_title hrecord ht]

/-- The type of a core that its context names. -/
theorem name_of_namedByContext (h : NamedByContext schema) (context : Option String) :
    (ofSchemaIn context schema).name =
      match context with
      | some name => pascal name
      | none => dictionary := by
  obtain ⟨hr, hk, ht, hp⟩ := h
  have hrecord : schema.isRecord = true := isRecord_iff.mpr ⟨hr, hk, Or.inr hp⟩
  cases context with
  | some name => rw [name_of_isRecord hrecord, ht, Option.getD_none]
  | none => exact name_of_title?_none hrecord ht

/-- A context that goes on with the mark of arrays names no value type. -/
theorem pascal_append_items_not_valueType (s : String) (depth : Nat) :
    valueTypes.contains (pascal (s ++ Name.items (depth + 1))) = false := by
  have hlast : ∀ depth, (Name.items (depth + 1)).toList.getLast? = some 'm' := by
    intro depth
    induction depth with
    | zero => decide
    | succ depth ih =>
      rw [Name.items, String.toList_append, List.getLast?_append, ih]
      rfl
  have hvalues : ∀ name ∈ valueTypes, name.toList.getLast? ≠ some 'm' := by decide
  refine Bool.eq_false_iff.mpr fun hmem => ?_
  refine hvalues _ (List.contains_iff_mem.mp hmem) ?_
  rw [pascal_append (cased_items depth), String.toList_append, List.getLast?_append, hlast]
  rfl

/-! ## 3. The type of a schema -/

/-- **Where the core is not named by its context, the context does not matter** to the type. -/
theorem ofSchema_eq (h : ¬NamedByContext schema.core) (context other : Option String) :
    ofSchema schema context = ofSchema schema other := by
  unfold ofSchema
  have hname : (ofSchemaIn (present? context) schema).name =
      (ofSchemaIn (present? other) schema).name := by
    rw [name_ofSchemaIn, name_ofSchemaIn (present? other)]
    rw [ofSchemaIn_core (core_item? schema) h _ (coreContext (present? other) schema.depth)]
  rw [ofSchemaIn_eq_ofName, hname, ← ofSchemaIn_eq_ofName]

theorem name_ofSchema (schema : Schema) (context : Option String) :
    (ofSchema schema context).name = listsOf schema.depth (reached schema context) := by
  unfold ofSchema reached ofSchema
  dsimp only
  rw [name_ofSchemaIn, present?_contextOfCore, spelling, render_eq_marked]

theorem reached_of_namedByContext (h : NamedByContext schema.core) (context : Option String) :
    reached schema context =
      match contextOfCore schema context with
      | some name => pascal name
      | none => dictionary := by
  unfold reached ofSchema
  dsimp only
  rw [present?_contextOfCore, render_eq_marked, name_of_namedByContext h]
  change _ = match coreContext (present? context) schema.depth with
    | some name => pascal name
    | none => dictionary
  cases hdepth : schema.depth with
  | zero => rw [if_pos rfl]
  | succ depth =>
    rw [if_neg (Nat.succ_ne_zero depth), marked]
    refine if_neg fun hvalue => ?_
    rw [Bool.and_eq_true] at hvalue
    cases hcontext : present? context with
    | none =>
      have hdictionary : valueTypes.contains dictionary = false := by decide +kernel
      rw [hcontext] at hvalue
      exact Bool.eq_false_iff.mp hdictionary hvalue.2
    | some c =>
      rw [hcontext] at hvalue
      have hname := pascal_append_items_not_valueType c depth
      rw [Bool.eq_false_iff] at hname
      exact hname hvalue.2

/-- **The name of a type in closed form, and what its context is for.** The lists stand around what
    the core comes to in its own context; only a core that is an object with properties, and neither
    a reference nor titled, reads that context. It is named by it, or is a dictionary where there is
    none. -/
theorem type_in_context (schema : Schema) :
    (∀ context, (ofSchema schema context).name =
      times schema.depth "IReadOnlyList<" ++ reached schema context ++ times schema.depth ">") ∧
    (¬NamedByContext schema.core →
      ∀ context other, ofSchema schema context = ofSchema schema other) ∧
    (NamedByContext schema.core → ∀ context, reached schema context =
      match contextOfCore schema context with
      | some name => pascal name
      | none => dictionary) := by
  refine ⟨fun context => ?_, ofSchema_eq, reached_of_namedByContext⟩
  rw [name_ofSchema, listsOf_eq]

/-- A list of lists of values with a schema. -/
def grid (cell : Schema) : Schema :=
  let row := Schema.node { Keywords.none with kind := .array } (some cell) []
  .node { Keywords.none with kind := .array } (some row) []

/-- An object with a property and without a title. -/
def point : Schema := .node { Keywords.none with kind := .object } none [("x", .any)]

/-- A whole number, or nothing. -/
def count : Schema := .node { Keywords.none with kind := .integer, nullable := true } none []

theorem type_in_context_grid :
    (ofSchema (grid point) (some "board_")).name =
        "IReadOnlyList<IReadOnlyList<BoardItemItem>>" ∧
      (ofSchema (grid count) (some "board_")).name = "IReadOnlyList<IReadOnlyList<int?>>" ∧
      ofSchema (grid count) (some "board_") = ofSchema (grid count) none := by
  obtain ⟨hpoint, _, hreached⟩ := type_in_context (grid point)
  obtain ⟨hcount, hsame, _⟩ := type_in_context (grid count)
  refine ⟨?_, ?_, hsame (by decide) _ _⟩
  · rw [hpoint, hreached (by decide)]
    decide +kernel
  · rw [hcount]
    decide +kernel

end SchemaRecords.TypeRef

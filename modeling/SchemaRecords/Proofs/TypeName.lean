import SchemaRecords.Proofs.Name.Cased
import SchemaRecords.Proofs.Schema.Core
import SchemaRecords.TypeRef

/-!
# The name of a type

The name of the type of a schema, in closed form.

* `spelling` -- a name under arrays;
* `name_ofSchemaIn` -- the name of the type of a schema is the spelling of that of its core;
* `name_of_record` -- the name where the core is a record; `name_of_title`, `name_of_isRecord`,
  `name_retitle` -- where it has a title, where there is a context, and where it has got a new title;
* `name_of_not_isRecord` -- the name where the core is no record: that of a reference, or one of
  `fixedNames`.
-/

namespace SchemaRecords.TypeRef

open Schema

/-! ## 1. Spellings -/

/-- A type name inside lists. -/
def listsOf : Nat → String → String
  | 0, name => name
  | depth + 1, name => listOf (listsOf depth name)

/-- A type name with the mark for nothing, where nothing is admitted and the type is a value
    type. -/
def marked (nullable : Bool) (name : String) : String :=
  if nullable && valueTypes.contains name then name ++ "?" else name

/-- The name of the type of lists of a value, `depth` lists around it. A type that stands inside a
    list bears its mark there; one that does not bears it only when it is written out. -/
def spelling (depth : Nat) (nullable : Bool) (name : String) : String :=
  listsOf depth (if depth = 0 then name else marked nullable name)

@[simp] theorem spelling_zero (nullable : Bool) (name : String) : spelling 0 nullable name = name :=
  rfl

theorem valueTypes_not_isReference : (valueTypes.all fun n => !isReference n) = true := by
  decide

theorem nothing_not_mem_valueTypes : valueTypes.contains nothing = false := by
  decide

theorem toList_listOf (name : String) :
    (listOf name).toList = "IReadOnlyList<".toList ++ (name.toList ++ ">".toList) := by
  rw [← List.append_assoc, ← String.toList_append, ← String.toList_append]
  rfl

/-- A list type admits nothing as it is. -/
theorem isReference_listOf (name : String) : isReference (listOf name) = true := by
  have e : "IReadOnlyList<".toList = "IReadOnly".toList ++ "List<".toList := by decide
  have h : Text.startsWith "IReadOnly" (listOf name) = true := by
    refine List.isPrefixOf_iff_prefix.mpr ⟨"List<".toList ++ (name.toList ++ ">".toList), ?_⟩
    rw [toList_listOf, e, List.append_assoc]
  simp only [isReference, h, Bool.or_true, Bool.true_or]

theorem isReference_of_mem_valueTypes {name : String} (h : valueTypes.contains name = true) :
    isReference name = false := by
  have hr := List.all_eq_true.mp valueTypes_not_isReference _ (List.contains_iff_mem.mp h)
  simpa using hr

/-- A list type is no value type. -/
theorem marked_listOf (nullable : Bool) (name : String) :
    marked nullable (listOf name) = listOf name := by
  have h : valueTypes.contains (listOf name) = false := by
    refine Bool.eq_false_iff.mpr fun hc => ?_
    have hr := isReference_of_mem_valueTypes hc
    rw [isReference_listOf] at hr
    cases hr
  rw [marked, h, Bool.and_false, if_neg Bool.false_ne_true]

@[simp] theorem name_ofName (name : String) (nullable : Bool) :
    (ofName name nullable).name = name := by
  unfold ofName
  split <;> rfl

theorem render_ofName (name : String) (nullable : Bool) :
    (ofName name nullable).render = marked nullable name := by
  unfold ofName render marked
  split
  · rename_i h
    rw [beq_iff_eq] at h
    subst h
    simp only [nothing_not_mem_valueTypes, Bool.and_false]
  · cases hv : valueTypes.contains name with
    | false => simp only [Bool.and_false]
    | true =>
      simp only [isReference_of_mem_valueTypes hv, Bool.not_false, Bool.and_true]

/-! ## 2. From the type of a schema to that of its core -/

/-- The mark of a type comes from its own schema. -/
theorem ofSchemaIn_eq_ofName (context : Option String) (s : Schema) :
    ofSchemaIn context s = ofName (ofSchemaIn context s).name s.keywords.nullable := by
  obtain ⟨k, items, properties⟩ := s
  unfold ofSchemaIn
  simp only [name_ofName, keywords]

theorem ofSchemaIn_of_item? (context : Option String) {s item : Schema} (h : s.item? = some item) :
    ofSchemaIn context s =
      ofName (listOf (ofSchemaIn (itemContext context) item).render) s.keywords.nullable := by
  obtain ⟨k, properties, rfl, hr, hk⟩ := item?_eq_some h
  simp only [ofSchemaIn, hr, hk, keywords]

/-- The context of a core, where the whole has the given one. -/
def coreContext (context : Option String) (depth : Nat) : Option String :=
  context.map (· ++ Name.items depth)

@[simp] theorem coreContext_zero (context : Option String) : coreContext context 0 = context := by
  cases context <;> simp [coreContext, Name.items]

theorem coreContext_itemContext (context : Option String) (depth : Nat) :
    coreContext (itemContext context) depth = coreContext context (depth + 1) := by
  cases context <;> simp [coreContext, itemContext, Name.items, String.append_assoc]

theorem render_ofSchemaIn (context : Option String) (s : Schema) :
    (ofSchemaIn context s).render =
      listsOf s.depth (marked s.core.keywords.nullable
        (ofSchemaIn (coreContext context s.depth) s.core).name) := by
  induction s using array_induction generalizing context with
  | leaf s h =>
    rw [depth_of_item?_none h, core_of_item?_none h, coreContext_zero, ofSchemaIn_eq_ofName,
      render_ofName, name_ofName]
    rfl
  | array s item h ih =>
    rw [ofSchemaIn_of_item? context h, render_ofName, marked_listOf, ih, depth_of_item?_some h,
      core_of_item?_some h, coreContext_itemContext]
    rfl

/-- **The name of the type of a schema is the spelling of the name of its core's.** -/
theorem name_ofSchemaIn (context : Option String) (s : Schema) :
    (ofSchemaIn context s).name =
      spelling s.depth s.core.keywords.nullable
        (ofSchemaIn (coreContext context s.depth) s.core).name := by
  cases h : s.item? with
  | none => rw [depth_of_item?_none h, core_of_item?_none h, coreContext_zero, spelling_zero]
  | some item =>
    rw [ofSchemaIn_of_item? context h, name_ofName, render_ofSchemaIn, depth_of_item?_some h,
      core_of_item?_some h, coreContext_itemContext]
    rfl

/-! ## 3. The type of a core -/

/-- The name of a record, by its title, its properties and the context. -/
theorem name_of_record {r : Schema} (h : r.isRecord = true) (context : Option String) :
    (ofSchemaIn context r).name = ofObject r.title? (!r.properties.isEmpty) context := by
  obtain ⟨hr, hk, _⟩ := isRecord_iff.mp h
  obtain ⟨k, items, properties⟩ := r
  simp only [keywords] at hr hk
  unfold ofSchemaIn
  simp only [hr, hk, name_ofName]
  rfl

/-- With a title, a record has its name in every context, -/
theorem name_of_title {r : Schema} (h : r.isRecord = true) {title : String}
    (ht : r.title? = some title) (context : Option String) :
    (ofSchemaIn context r).name = Name.pascal title := by
  rw [name_of_record h, ht]
  rfl

/-- and without a title and a context, the name of a dictionary. -/
theorem name_of_title?_none {r : Schema} (h : r.isRecord = true) (ht : r.title? = none) :
    (ofSchemaIn none r).name = dictionary := by
  rw [name_of_record h, ht]
  cases r.properties <;> rfl

/-- The name of a record: its title, or else what the context says. -/
theorem name_of_isRecord {r : Schema} (h : r.isRecord = true) (context : String) :
    (ofSchemaIn (some context) r).name = Name.pascal (r.title?.getD context) := by
  cases ht : r.title? with
  | some title => exact name_of_title h ht (some context)
  | none =>
    obtain ⟨_, _, hp⟩ := isRecord_iff.mp h
    have hne : r.properties ≠ [] := by simpa [ht] using hp
    rw [name_of_record h, ht, List.isEmpty_eq_false_iff.mpr hne]
    rfl

/-- The name of a record with a new title. -/
theorem name_retitle {r : Schema} (h : r.isRecord = true) (context : Option String) {name : String}
    (hn : name ≠ "") : (ofSchemaIn context (r.retitle name 0)).name = Name.pascal name := by
  obtain ⟨hr, hk, _⟩ := isRecord_iff.mp h
  obtain ⟨k, items, properties⟩ := r
  have ht : (retitle name 0 (.node k items properties)).title? = some name := by
    simp [retitle, title?, keywords, present?, hn]
  have hrecord : (retitle name 0 (.node k items properties)).isRecord = true :=
    isRecord_iff.mpr ⟨hr, hk, Or.inl (Option.isSome_of_mem ht)⟩
  exact name_of_title hrecord ht context

/-- The names that the types of values without references and records have. -/
def fixedNames : List String :=
  [text, "DateTimeOffset", "DateOnly", "TimeOnly", "Uri", "Guid", "int", "double", "bool",
    listOf anything, dictionary, nothing, anything]

theorem formats_subset_fixedNames : (formats.all fun e => fixedNames.contains e.2) = true := by
  decide

/-- The type of a text is that of all texts, or that of one of the formats. -/
theorem ofFormat_cases (format : Option String) :
    ofFormat format = text ∨ ∃ e ∈ formats, ofFormat format = e.2 := by
  cases format with
  | none => exact Or.inl rfl
  | some f =>
    unfold ofFormat
    dsimp only
    cases h : formats.lookup (String.ofList (Text.lower f.toList)) with
    | none => exact Or.inl rfl
    | some name =>
      obtain ⟨l₁, l₂, hl, _⟩ := List.lookup_eq_some_iff.mp h
      exact Or.inr ⟨_, hl ▸ List.mem_append_right l₁ List.mem_cons_self, rfl⟩

theorem ofFormat_mem_fixedNames (format : Option String) : ofFormat format ∈ fixedNames := by
  rcases ofFormat_cases format with h | ⟨e, he, h⟩
  · rw [h]
    decide
  · rw [h]
    exact List.contains_iff_mem.mp (List.all_eq_true.mp formats_subset_fixedNames e he)

/-- **The type of a core that is no record** does not hang on the context; its name is that of the
    reference, or one of the fixed names. -/
theorem name_of_not_isRecord {s : Schema} (hs : s.item? = none) (h : s.isRecord = false)
    (context : Option String) :
    (ofSchemaIn context s).name = (ofSchemaIn none s).name ∧
      match s.reference? with
      | some ref => (ofSchemaIn none s).name = Name.ofReference ref
      | none => (ofSchemaIn none s).name ∈ fixedNames := by
  obtain ⟨k, items, properties⟩ := s
  cases hr : present? k.ref with
  | some ref =>
    unfold ofSchemaIn
    simp [hr, reference?, keywords]
  | none =>
    unfold ofSchemaIn
    simp only [hr, name_ofName, reference?, keywords]
    cases hk : k.kind with
    | string => exact ⟨rfl, ofFormat_mem_fixedNames k.format⟩
    | array =>
      have hi : items = none := by simpa [item?, hr, hk] using hs
      subst hi
      exact ⟨rfl, show listOf anything ∈ fixedNames by decide⟩
    | object =>
      have hno : present? k.title = none ∧ properties = [] := by
        simpa [isRecord, reference?, title?, keywords, Schema.properties, hr, hk] using h
      obtain ⟨ht, rfl⟩ := hno
      rw [ht]
      exact ⟨rfl, show dictionary ∈ fixedNames by decide⟩
    | _ => exact ⟨rfl, by dsimp only; decide⟩

end SchemaRecords.TypeRef

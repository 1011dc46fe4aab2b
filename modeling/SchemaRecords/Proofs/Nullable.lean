import SchemaRecords.Proofs.Innermost

/-!
# When a type admits nothing

The rule is that a type admits nothing where its schema says so, unless the type is one of those
that admit it as they are: texts, anything, addresses and collections. Such a type is told from the
others by how its name starts, so a record whose name goes on from that of an address, or from the
first word of the collections, is taken for one.

* `name_eq_nothing` -- the type of nothing is that of the schemas of nothing, and of no others;
* `Inherent`, `Admitting` -- the types that admit nothing as they are, and the rule;
* `Mistaken` -- a name that is taken for that of such a type;
* `isNullable_iff_admitting` -- a type admits nothing by the rule, and only a mistaken name breaks
  it; the name is that of a reference or of a record.
-/

namespace SchemaRecords.TypeRef

open Schema Name

variable {schema : Schema} {name : String}

/-! ## 1. The type of nothing -/

/-- A schema of nothing: it refers to no other and has the kind for nothing. -/
def IsNothing (schema : Schema) : Prop :=
  schema.reference? = none ∧ schema.keywords.kind = .null

theorem pascal_ne_nothing (s : String) : pascal s ≠ nothing := by
  intro h
  rcases pascal_cases s with hcased | hempty
  · have hpascal := hcased.pascal_eq
    rw [h] at hpascal
    revert hpascal
    decide
  · rw [h] at hempty
    revert hempty
    decide

theorem ofReference_ne_nothing (ref : String) : ofReference ref ≠ nothing := by
  unfold ofReference
  dsimp only
  split
  · decide
  · exact pascal_ne_nothing _

theorem ofFormat_ne_nothing (format : Option String) : ofFormat format ≠ nothing := by
  have hformats : ∀ e ∈ formats, e.2 ≠ nothing := by decide
  rcases ofFormat_cases format with h | ⟨e, he, h⟩
  · rw [h]
    decide
  · rw [h]
    exact hformats e he

theorem listOf_ne_nothing (name : String) : listOf name ≠ nothing := by
  intro h
  have hlist := toList_listOf name
  rw [h] at hlist
  cases hlist

theorem ofObject_ne_nothing (title : Option String) (hasProperties : Bool)
    (context : Option String) : ofObject title hasProperties context ≠ nothing := by
  unfold ofObject
  split
  · exact pascal_ne_nothing _
  · exact pascal_ne_nothing _
  · decide

/-- **The type of nothing is that of the schemas of nothing**, and of no others. -/
theorem name_eq_nothing {context : Option String} :
    (ofSchemaIn context schema).name = nothing ↔ IsNothing schema := by
  obtain ⟨k, items, properties⟩ := schema
  unfold ofSchemaIn IsNothing reference? keywords
  simp only [name_ofName]
  cases hr : present? k.ref with
  | some ref => exact iff_of_false (ofReference_ne_nothing ref) fun h => by cases h.1
  | none =>
    cases hk : k.kind with
    | null => exact iff_of_true rfl ⟨rfl, rfl⟩
    | string => exact iff_of_false (ofFormat_ne_nothing _) fun h => by cases h.2
    | array =>
      refine iff_of_false ?_ fun h => by cases h.2
      cases items with
      | none => exact listOf_ne_nothing _
      | some item => exact listOf_ne_nothing _
    | object => exact iff_of_false (ofObject_ne_nothing _ _ _) fun h => by cases h.2
    | _ =>
      refine iff_of_false ?_ fun h => by cases h.2
      dsimp only
      decide

/-! ## 2. Types that admit nothing as they are -/

/-- The type of a list, or of an object of which nothing is known. -/
def IsCollection (name : String) : Prop := name = dictionary ∨ ∃ element, name = listOf element

/-- The type of the texts that are addresses. -/
def address : String := "Uri"

/-- A type that admits nothing as it is. -/
def Inherent (name : String) : Prop :=
  name = text ∨ name = anything ∨ name = address ∨ IsCollection name

/-- **The rule for a type of this name**: nothing is admitted by a schema of nothing, and by one
    that says so, unless the type admits it as it is. -/
def Admitting (schema : Schema) (name : String) : Prop :=
  IsNothing schema ∨ schema.keywords.nullable = true ∧ ¬Inherent name

/-- **A name that is mistaken for that of such a type**: it starts as theirs do. -/
def Mistaken (name : String) : Prop :=
  ¬Inherent name ∧
    (Text.startsWith "Uri" name = true ∨ Text.startsWith "IReadOnly" name = true)

theorem isCollection_iff :
    IsCollection name ↔ name = dictionary ∨ (element? name.toList).isSome = true := by
  refine or_congr_right ⟨?_, fun h => ?_⟩
  · rintro ⟨element, rfl⟩
    rw [element?_eq_some.mpr (toList_listOf element)]
    rfl
  · obtain ⟨element, he⟩ := Option.isSome_iff_exists.mp h
    refine ⟨String.ofList element, String.toList_inj.mp ?_⟩
    rw [toList_listOf, @String.toList_ofList element, ← element?_eq_some.mp he]

instance (name : String) : Decidable (IsCollection name) :=
  decidable_of_iff _ isCollection_iff.symm

instance (name : String) : Decidable (Inherent name) := inferInstanceAs (Decidable (_ ∨ _))

instance (name : String) : Decidable (Mistaken name) := inferInstanceAs (Decidable (_ ∧ _))

instance (schema : Schema) : Decidable (IsNothing schema) := inferInstanceAs (Decidable (_ ∧ _))

instance (schema : Schema) (name : String) : Decidable (Admitting schema name) :=
  inferInstanceAs (Decidable (_ ∨ _))

theorem isReference_of_inherent (h : Inherent name) : isReference name = true := by
  rcases h with rfl | rfl | rfl | rfl | ⟨element, rfl⟩
  · decide
  · decide
  · decide
  · decide
  · exact isReference_listOf element

/-- Names are told apart by how they start, so the mistaken ones are taken for the others. -/
theorem isReference_iff (hn : name ≠ nothing) :
    isReference name = true ↔ Inherent name ∨ Mistaken name := by
  constructor
  · intro h
    by_cases hi : Inherent name
    · exact Or.inl hi
    · simp only [isReference, Bool.or_eq_true, beq_iff_eq] at h
      rcases h with (((h | h) | h) | h) | h
      · exact absurd (Or.inl h) hi
      · exact absurd (Or.inr (Or.inl h)) hi
      · exact absurd h hn
      · exact Or.inr ⟨hi, Or.inr h⟩
      · exact Or.inr ⟨hi, Or.inl h⟩
  · rintro (h | ⟨_, h | h⟩)
    · exact isReference_of_inherent h
    · simp only [isReference, h, Bool.or_true]
    · simp only [isReference, h, Bool.or_true, Bool.true_or]

theorem not_mistaken_nothing : ¬Mistaken nothing := by
  rintro ⟨_, h | h⟩ <;> revert h <;> decide

/-- The fixed names that start so are those of such types. -/
theorem inherent_of_mem_fixedNames : ∀ name ∈ fixedNames,
    Text.startsWith "Uri" name = true ∨ Text.startsWith "IReadOnly" name = true →
      name = address ∨ name = dictionary ∨ name = listOf anything := by
  decide

/-- **A mistaken name is that of a reference or of a record.** -/
theorem reference_or_isRecord_of_mistaken {context : Option String}
    (h : Mistaken (ofSchemaIn context schema).name) :
    schema.reference? ≠ none ∨ schema.isRecord = true := by
  by_contra hno
  obtain ⟨hr, hrecord⟩ := not_or.mp hno
  have hr := not_not.mp hr
  obtain ⟨hnot, hstart⟩ := h
  cases hitem : schema.item? with
  | some item =>
    rw [ofSchemaIn_of_item? context hitem, name_ofName] at hnot
    exact hnot (.inr (.inr (.inr (.inr ⟨_, rfl⟩))))
  | none =>
    obtain ⟨hname, hfixed⟩ := name_of_not_isRecord hitem (Bool.eq_false_iff.mpr hrecord) context
    rw [hr] at hfixed
    dsimp only at hfixed
    rw [← hname] at hfixed
    rcases inherent_of_mem_fixedNames _ hfixed hstart with e | e | e
    · exact hnot (.inr (.inr (.inl e)))
    · exact hnot (.inr (.inr (.inr (.inl e))))
    · exact hnot (.inr (.inr (.inr (.inr ⟨_, e⟩))))

/-! ## 3. The rule -/

theorem isNullable_ofName (hn : name ≠ nothing) (nullable : Bool) :
    (ofName name nullable).isNullable = true ↔
      nullable = true ∧ ¬Inherent name ∧ ¬Mistaken name := by
  rw [ofName, if_neg (by simpa using hn), Bool.and_eq_true, Bool.not_eq_true',
    ← Bool.not_eq_true, isReference_iff hn, not_or]

/-- **By the rule, a type admits nothing, but for a mistaken name.** -/
theorem isNullable_ofSchemaIn (schema : Schema) (context : Option String) :
    (ofSchemaIn context schema).isNullable = true ↔
      Admitting schema (ofSchemaIn context schema).name ∧
        ¬Mistaken (ofSchemaIn context schema).name := by
  rw [ofSchemaIn_eq_ofName, name_ofName]
  by_cases h : IsNothing schema
  · rw [name_eq_nothing.mpr h]
    exact iff_of_true rfl ⟨Or.inl h, not_mistaken_nothing⟩
  · rw [isNullable_ofName fun hn => h (name_eq_nothing.mp hn), ← and_assoc]
    exact and_congr_left fun _ => (or_iff_right h).symm

/-- **A type admits nothing by the rule, and only a mistaken name breaks it**, where the schema says
    that it admits nothing. Such a name is that of a reference or of a record; under all other names
    but those of the types that admit nothing as they are, a type admits it exactly if its schema
    says so. -/
theorem isNullable_iff_admitting (schema : Schema) (context : Option String) :
    ((ofSchema schema context).isNullable = true ↔
      Admitting schema (ofSchema schema context).name ∧
        ¬Mistaken (ofSchema schema context).name) ∧
    (((ofSchema schema context).isNullable = true ↔
        Admitting schema (ofSchema schema context).name) ↔
      ¬(schema.keywords.nullable = true ∧ Mistaken (ofSchema schema context).name)) ∧
    (Mistaken (ofSchema schema context).name →
      schema.reference? ≠ none ∨ schema.isRecord = true) ∧
    (¬IsNothing schema → ¬Inherent (ofSchema schema context).name →
      ¬Mistaken (ofSchema schema context).name →
        (ofSchema schema context).isNullable = schema.keywords.nullable) := by
  unfold ofSchema
  generalize present? context = context
  have hrule := isNullable_ofSchemaIn schema context
  refine ⟨hrule, ?_, reference_or_isRecord_of_mistaken, fun hnothing hinherent hmistaken => ?_⟩
  · rw [hrule, and_iff_left_iff_imp]
    constructor
    · exact fun h ⟨hnullable, hmistaken⟩ => h (Or.inr ⟨hnullable, hmistaken.1⟩) hmistaken
    · rintro h (hnothing | ⟨hnullable, _⟩) hmistaken
      · rw [name_eq_nothing.mpr hnothing] at hmistaken
        exact not_mistaken_nothing hmistaken
      · exact h ⟨hnullable, hmistaken⟩
  · rw [Bool.eq_iff_iff, hrule, Admitting, and_iff_left hmistaken, or_iff_right hnothing,
      and_iff_left hinherent]

/-- A reference to a record, with a note that it may be nothing. -/
def optionalReference (name : String) : Schema :=
  .node { Keywords.none with ref := some ("#/definitions/" ++ name), nullable := true } none []

theorem isNullable_iff_admitting_widget :
    (ofSchema (optionalReference "Widget") (some "X")).name = "Widget" ∧
      (ofSchema (optionalReference "Widget") (some "X")).isNullable = true ∧
      Mistaken (ofSchema (optionalReference "UriTemplate") (some "X")).name ∧
      ¬(ofSchema (optionalReference "UriTemplate") (some "X")).isNullable = true := by
  have hmistaken : Mistaken (ofSchema (optionalReference "UriTemplate") (some "X")).name := by
    decide
  obtain ⟨_, _, _, hwidget⟩ := isNullable_iff_admitting (optionalReference "Widget") (some "X")
  obtain ⟨htemplate, _⟩ := isNullable_iff_admitting (optionalReference "UriTemplate") (some "X")
  exact ⟨by decide, hwidget (by decide +kernel) (by decide +kernel) (by decide),
    hmistaken, fun h => (htemplate.mp h).2 hmistaken⟩

/-- **The rule is broken by a record that is named as if it were an address.** -/
theorem template_not_nullable :
    (ofSchema (optionalReference "UriTemplate") none).name = "UriTemplate" ∧
      Admitting (optionalReference "UriTemplate") "UriTemplate" ∧
      (optionalReference "UriTemplate").keywords.nullable = true ∧
      (ofSchema (optionalReference "UriTemplate") none).isNullable = false := by
  decide

end SchemaRecords.TypeRef

import SchemaRecords.Proofs.Document.Entries
import SchemaRecords.Schema.OfValue

/-!
# Properties and required names of a mapping

What a schema has of the mapping it stands for.

* `mem_nameSet`, `mem_names_assignAll` -- sets and tables of names lose no name and gain none, and
  `nameSet_congr` -- a set hangs on nothing else; `assignAll_of_nodup` -- names that are assigned
  once keep their order, and `length_assignAll_iff` -- no others keep their number;
* `itemsOf_eq`, `propertiesOf_eq`, `IsProperty` -- the items are those of the value at `items`, and
  the properties those of the mapping at `properties`, each under the displayed text of its key and
  with the schema of its value (`partsOf_ok`);
* `partOf_mapping_ok` -- what a schema of a mapping is made of, and `ofValue_mapping_ok` -- **a schema of a mapping has these properties and required names**.
-/

namespace SchemaRecords

open Document

/-! ## 1. Sets and tables of names -/

theorem mem_insertName {other name : String} {names : List String} :
    other ∈ insertName name names ↔ other = name ∨ other ∈ names := by
  induction names with
  | nil => rw [insertName, List.mem_singleton, or_iff_left List.not_mem_nil]
  | cons first rest ih =>
    rw [insertName]
    split
    · exact List.mem_cons
    · split
      · rename_i hsame
        rw [eq_of_beq hsame, List.mem_cons, or_self_left]
      · rw [List.mem_cons, ih, List.mem_cons, or_left_comm]

/-- A set of names has the names it was made of. -/
theorem mem_nameSet {name : String} {names : List String} :
    name ∈ nameSet names ↔ name ∈ names := by
  induction names with
  | nil => rfl
  | cons first rest ih =>
    rw [List.mem_cons, ← ih]
    exact mem_insertName

/-- A name put into an ascending list leaves it ascending. -/
theorem pairwise_insertName {name : String} {names : List String} (h : names.Pairwise (· < ·)) :
    (insertName name names).Pairwise (· < ·) := by
  induction names with
  | nil => exact List.pairwise_singleton _ _
  | cons first rest ih =>
    obtain ⟨hfirst, hrest⟩ := List.pairwise_cons.mp h
    rw [insertName]
    split
    · rename_i hless
      refine List.pairwise_cons.mpr ⟨fun other hother => ?_, h⟩
      rcases List.mem_cons.mp hother with rfl | hother
      · exact hless
      · exact hless.trans (hfirst other hother)
    · split
      · exact h
      · rename_i hnot hne
        have hless : first < name :=
          lt_of_le_of_ne (not_lt.mp hnot) fun e => hne (beq_iff_eq.mpr e.symm)
        refine List.pairwise_cons.mpr ⟨fun other hother => ?_, ih hrest⟩
        rcases mem_insertName.mp hother with rfl | hother
        · exact hless
        · exact hfirst other hother

theorem pairwise_nameSet (names : List String) : (nameSet names).Pairwise (· < ·) := by
  induction names with
  | nil => exact List.Pairwise.nil
  | cons first rest ih => exact pairwise_insertName ih

/-- **A set of names does not hang on their order, nor on how often each is there.** -/
theorem nameSet_congr {names others : List String} (h : ∀ name, name ∈ names ↔ name ∈ others) :
    nameSet names = nameSet others := by
  refine (pairwise_nameSet names).eq_of_mem_iff (pairwise_nameSet others) fun name => ?_
  rw [mem_nameSet, mem_nameSet, h]

theorem mem_names_assign {α : Type} {other name : String} {value : α} {table : List (String × α)} :
    other ∈ (assign name value table).map (·.1) ↔ other = name ∨ other ∈ table.map (·.1) := by
  induction table with
  | nil => simp [assign]
  | cons first rest ih =>
    obtain ⟨n, v⟩ := first
    rw [assign]
    split
    · rename_i hsame
      obtain rfl := eq_of_beq hsame
      rw [List.map_cons, List.map_cons, List.mem_cons, or_self_left]
    · rw [List.map_cons, List.map_cons, List.mem_cons, List.mem_cons, ih, or_left_comm]

/-- Assignments in front of others are made first. -/
theorem assignAll_append_singleton {α : Type} (assignments : List (String × α))
    (last : String × α) :
    assignAll (assignments ++ [last]) = assign last.1 last.2 (assignAll assignments) := by
  rw [assignAll, List.foldl_append]
  rfl

/-- A table has the names that were assigned. -/
theorem mem_names_assignAll {α : Type} {name : String} {assignments : List (String × α)} :
    name ∈ (assignAll assignments).map (·.1) ↔ name ∈ assignments.map (·.1) := by
  induction assignments using List.reverseRecOn with
  | nil => rfl
  | append_singleton assignments last ih =>
    rw [assignAll_append_singleton, mem_names_assign, ih, List.map_append, List.mem_append,
      List.map_singleton, List.mem_singleton, or_comm]

/-- A new name is assigned behind the others. -/
theorem assign_of_not_mem {α : Type} {name : String} (value : α) {table : List (String × α)}
    (h : name ∉ table.map (·.1)) : assign name value table = table ++ [(name, value)] := by
  induction table with
  | nil => rfl
  | cons first rest ih =>
    rw [List.map_cons, List.mem_cons, not_or] at h
    have hne : ¬(first.1 == name) = true := fun e => h.1 (eq_of_beq e).symm
    rw [assign, if_neg hne, ih h.2, List.cons_append]

/-- Names that are assigned once have what was assigned, in their order. -/
theorem assignAll_of_nodup {α : Type} {assignments : List (String × α)}
    (h : (assignments.map (·.1)).Nodup) : assignAll assignments = assignments := by
  induction assignments using List.reverseRecOn with
  | nil => rfl
  | append_singleton assignments last ih =>
    rw [List.map_append, List.nodup_append] at h
    rw [assignAll_append_singleton, ih h.1]
    exact assign_of_not_mem last.2 fun hmem => h.2.2 _ hmem _ List.mem_cons_self rfl

theorem nodup_names_assign {α : Type} (name : String) (value : α) {table : List (String × α)}
    (h : (table.map (·.1)).Nodup) : ((assign name value table).map (·.1)).Nodup := by
  induction table with
  | nil => exact List.nodup_singleton name
  | cons first rest ih =>
    obtain ⟨n, v⟩ := first
    rw [List.map_cons, List.nodup_cons] at h
    rw [assign]
    split
    next => exact List.nodup_cons.mpr h
    next hne =>
      refine List.nodup_cons.mpr ⟨fun hmem => ?_, ih h.2⟩
      rcases mem_names_assign.mp hmem with e | hmem
      · exact hne (beq_iff_eq.mpr e)
      · exact h.1 hmem

/-- A table has each name once. -/
theorem nodup_names_assignAll {α : Type} (assignments : List (String × α)) :
    ((assignAll assignments).map (·.1)).Nodup := by
  induction assignments using List.reverseRecOn with
  | nil => exact List.nodup_nil
  | append_singleton assignments last ih =>
    rw [assignAll_append_singleton]
    exact nodup_names_assign last.1 last.2 ih

/-- **A table is as long as its assignments exactly where their names are distinct.** -/
theorem length_assignAll_iff {α : Type} (assignments : List (String × α)) :
    (assignAll assignments).length = assignments.length ↔ (assignments.map (·.1)).Nodup := by
  constructor
  · intro h
    have hnames : ((assignAll assignments).map (·.1)).toFinset =
        (assignments.map (·.1)).toFinset := by
      ext name
      rw [List.mem_toFinset, List.mem_toFinset, mem_names_assignAll]
    have hcard := List.toFinset_card_of_nodup (nodup_names_assignAll assignments)
    rw [hnames, List.length_map, h, ← List.length_map (·.1)] at hcard
    exact Multiset.toFinset_card_eq_card_iff_nodup.mp hcard
  · intro h
    rw [assignAll_of_nodup h]

/-! ## 2. Items and properties -/

/-- The schema that the value at `items` stands for. -/
def itemsAt : Value → Except SchemaFault (Option Schema)
  | .scalar (.bool b) => (partOf (.scalar (.bool b))).map some
  | .mapping entries => (partOf (.mapping entries)).map some
  | _ => .ok none

/-- The schemas that the value at `properties` has. -/
def propertiesAt : Value → Except SchemaFault (List (String × Schema))
  | .mapping entries => partsOf entries
  | _ => .ok []

/-- A value that is read as a schema where it stands for items. -/
def IsPart (v : Value) : Prop := (∃ b, v = .scalar (.bool b)) ∨ ∃ entries, v = .mapping entries

/-- Any other value that stands for items is passed over. -/
theorem itemsAt_of_not_isPart {v : Value} (h : ¬IsPart v) : itemsAt v = .ok none := by
  cases v with
  | scalar s =>
    cases s with
    | bool b => exact absurd (Or.inl ⟨b, rfl⟩) h
    | _ => rfl
  | mapping entries => exact absurd (Or.inr ⟨entries, rfl⟩) h
  | _ => rfl

/-- The first entry for the items counts. -/
theorem itemsOf_first (value : Value) (rest : Entries) :
    itemsOf ((.text "items", value) :: rest) = itemsAt value := by
  unfold itemsOf
  rw [if_pos (beq_self_eq_true _)]
  rfl

theorem itemsOf_skip {key : Scalar} (h : key ≠ .text "items") (value : Value) (rest : Entries) :
    itemsOf ((key, value) :: rest) = itemsOf rest := by
  rw [itemsOf.eq_def]
  exact if_neg fun hsame => h (eq_of_beq hsame)

/-- The first entry for the properties counts. -/
theorem propertiesOf_first (value : Value) (rest : Entries) :
    propertiesOf ((.text "properties", value) :: rest) = propertiesAt value := by
  unfold propertiesOf
  rw [if_pos (beq_self_eq_true _)]
  rfl

theorem propertiesOf_skip {key : Scalar} (h : key ≠ .text "properties") (value : Value)
    (rest : Entries) : propertiesOf ((key, value) :: rest) = propertiesOf rest := by
  rw [propertiesOf.eq_def]
  exact if_neg fun hsame => h (eq_of_beq hsame)

/-- The items are those of the value at `items`. -/
theorem itemsOf_eq (entries : Entries) : itemsOf entries = itemsAt (get "items" entries) := by
  induction entries with
  | nil => rfl
  | cons e rest ih =>
    obtain ⟨key, value⟩ := e
    rw [get_cons]
    by_cases hkey : key = .text "items"
    · rw [if_pos hkey, hkey, itemsOf_first]
    · rw [if_neg hkey, itemsOf_skip hkey, ih]

/-- The properties are those of the value at `properties`. -/
theorem propertiesOf_eq (entries : Entries) :
    propertiesOf entries = propertiesAt (get "properties" entries) := by
  induction entries with
  | nil => rfl
  | cons e rest ih =>
    obtain ⟨key, value⟩ := e
    rw [get_cons]
    by_cases hkey : key = .text "properties"
    · rw [if_pos hkey, hkey, propertiesOf_first]
    · rw [if_neg hkey, propertiesOf_skip hkey, ih]

/-- The property that an entry stands for. -/
structure IsProperty (e : Scalar × Value) (p : String × Schema) : Prop where
  name : p.1 = e.1.display
  schema : partOf e.2 = .ok p.2

theorem propertiesAt_eq (v : Value) : propertiesAt v = partsOf v.entries := by
  cases v <;> rfl

/-- The parts of entries are their properties, and all keys have a text. -/
theorem partsOf_ok {entries : Entries} {parts : List (String × Schema)}
    (h : partsOf entries = .ok parts) :
    List.Forall₂ IsProperty entries parts ∧ ∀ k ∈ entries.map (·.1), k.isWritable = true := by
  induction entries generalizing parts with
  | nil =>
    obtain rfl := Except.ok.inj h
    exact ⟨.nil, nofun⟩
  | cons e rest ih =>
    obtain ⟨key, value⟩ := e
    rw [partsOf] at h
    obtain ⟨_, hkey, h⟩ := bind_eq_ok.mp h
    obtain ⟨schema, hschema, h⟩ := bind_eq_ok.mp h
    obtain ⟨more, hmore, h⟩ := bind_eq_ok.mp h
    obtain rfl := Except.ok.inj h
    obtain ⟨hparts, hkeys⟩ := ih hmore
    have hwritable : key.isWritable = true := by
      rw [ensureWritable] at hkey
      split at hkey
      next hall => simpa [areWritable, Value.isWritable] using hall
      next => cases hkey
    exact ⟨.cons ⟨rfl, hschema⟩ hparts, List.forall_mem_cons.mpr ⟨hwritable, hkeys⟩⟩

/-- The value of each entry stands for a schema. -/
theorem exists_part {entries : Entries} {parts : List (String × Schema)}
    (h : List.Forall₂ IsProperty entries parts) {e : Scalar × Value} (he : e ∈ entries) :
    ∃ schema, partOf e.2 = .ok schema := by
  induction h with
  | nil => exact absurd he List.not_mem_nil
  | cons hp _ ih =>
    rcases List.mem_cons.mp he with rfl | he
    · exact ⟨_, hp.schema⟩
    · exact ih he

/-- Each property stands under the displayed text of its key. -/
theorem names_of_isProperty {entries : Entries} {parts : List (String × Schema)}
    (h : List.Forall₂ IsProperty entries parts) :
    parts.map (·.1) = entries.map (·.1.display) := by
  induction h with
  | nil => rfl
  | cons hp _ ih => rw [List.map_cons, List.map_cons, hp.name, ih]

/-! ## 3. Schemas -/

/-- A mapping is read with its items and the parts that its properties have. -/
theorem partOf_mapping_ok {entries : Entries} {schema : Schema}
    (h : partOf (.mapping entries) = .ok schema) :
    ∃ items parts, itemsAt (get "items" entries) = .ok items ∧
      partsOf (get "properties" entries).entries = .ok parts ∧
      schema = .node (.ofEntries entries) items (assignAll parts) := by
  rw [partOf] at h
  split at h
  next =>
    obtain ⟨_, _, h⟩ := bind_eq_ok.mp h
    obtain ⟨items, hitems, h⟩ := bind_eq_ok.mp h
    obtain ⟨parts, hparts, h⟩ := bind_eq_ok.mp h
    obtain ⟨_, _, h⟩ := bind_eq_ok.mp h
    obtain rfl := Except.ok.inj h
    rw [itemsOf_eq] at hitems
    rw [propertiesOf_eq, propertiesAt_eq] at hparts
    exact ⟨items, parts, hitems, hparts, rfl⟩
  next => cases h

/-- What is a schema at the top is one below. -/
theorem partOf_of_ofValue {v : Value} {schema : Schema} (h : Schema.ofValue v = .ok schema) :
    partOf v = .ok schema := by
  unfold Schema.ofValue at h
  split at h
  · cases h
  · exact h

/-- **A schema of a mapping** has a property for each key of `properties`, and requires the
    displayed texts of the values in `required`. -/
theorem ofValue_mapping_ok {entries : Entries} {schema : Schema}
    (h : Schema.ofValue (.mapping entries) = .ok schema) :
    (∀ properties, get "properties" entries = .mapping properties →
      ∀ key ∈ properties.map (·.1), key.display ∈ schema.properties.map (·.1)) ∧
    ∀ required, get "required" entries = .list required →
      ∀ name, name ∈ schema.keywords.required ↔ name ∈ required.map Value.display := by
  obtain ⟨items, parts, _, hparts, rfl⟩ := partOf_mapping_ok (partOf_of_ofValue h)
  refine ⟨fun properties hget key hkey => ?_, fun required hget name => ?_⟩
  · rw [hget] at hparts
    obtain ⟨e, he, rfl⟩ := List.mem_map.mp hkey
    refine mem_names_assignAll.mpr ?_
    rw [names_of_isProperty (partsOf_ok hparts).1]
    exact List.mem_map_of_mem he
  · rw [Schema.keywords, Keywords.ofEntries, hget]
    exact mem_nameSet

end SchemaRecords

import SchemaRecords.Schema.Basic

/-!
# What a schema comes to through its arrays

A schema is an array of arrays of ... of something. What stands at the end decides whether a
property leads to a record.

* `Schema.depth`, `Schema.core` -- the number of arrays that are no references, and what is under
  them; `Schema.record?` -- both, if that is a record;
* `Schema.titles` -- the titles anywhere in a schema;
* `array_induction`, `properties_induction` -- the two ways down: through arrays to the core, and
  through the properties of records.
-/

namespace SchemaRecords.Schema

/-! ## 1. Through arrays -/

/-- The schema of the items of an array that is no reference. -/
def item? : Schema → Option Schema
  | .node k items _ => if (present? k.ref).isNone && k.kind == .array then items else none

/-- The number of arrays around the core. -/
def depth : Schema → Nat
  | .node k items _ =>
      match items with
      | some item => if (present? k.ref).isNone && k.kind == .array then depth item + 1 else 0
      | none => 0

/-- What a schema comes to through its arrays. -/
def core : Schema → Schema
  | .node k items properties =>
      match items with
      | some item =>
          if (present? k.ref).isNone && k.kind == .array then core item
          else .node k (some item) properties
      | none => .node k none properties

/-- The record that a schema comes to, and the number of arrays around it. -/
def record? (s : Schema) : Option (Nat × Schema) :=
  if s.core.isRecord then some (s.depth, s.core) else none

theorem depth_of_item?_none {s : Schema} (h : s.item? = none) : s.depth = 0 := by
  obtain ⟨k, items, properties⟩ := s
  cases items with
  | none => simp [depth]
  | some item =>
    simp only [item?, ite_eq_right_iff, reduceCtorEq, imp_false] at h
    rw [depth, if_neg h]

theorem core_of_item?_none {s : Schema} (h : s.item? = none) : s.core = s := by
  obtain ⟨k, items, properties⟩ := s
  cases items with
  | none => simp [core]
  | some item =>
    simp only [item?, ite_eq_right_iff, reduceCtorEq, imp_false] at h
    rw [core, if_neg h]

/-- An array that is no reference, with the schema of its items. -/
theorem item?_eq_some {s item : Schema} (h : s.item? = some item) :
    ∃ k properties, s = .node k (some item) properties ∧ present? k.ref = none ∧
      k.kind = .array := by
  obtain ⟨k, items, properties⟩ := s
  simp only [item?, Option.ite_none_right_eq_some, Bool.and_eq_true, Option.isNone_iff_eq_none,
    beq_iff_eq] at h
  obtain ⟨⟨hr, hk⟩, rfl⟩ := h
  exact ⟨k, properties, rfl, hr, hk⟩

theorem depth_of_item?_some {s item : Schema} (h : s.item? = some item) :
    s.depth = item.depth + 1 := by
  obtain ⟨k, properties, rfl, hr, hk⟩ := item?_eq_some h
  simp [depth, hr, hk]

theorem core_of_item?_some {s item : Schema} (h : s.item? = some item) : s.core = item.core := by
  obtain ⟨k, properties, rfl, hr, hk⟩ := item?_eq_some h
  simp [core, hr, hk]

theorem sizeOf_item_lt {s item : Schema} (h : s.item? = some item) : sizeOf item < sizeOf s := by
  obtain ⟨k, properties, rfl, _⟩ := item?_eq_some h
  simp only [node.sizeOf_spec, Option.some.sizeOf_spec]
  omega

/-- From the core outwards, one array at a time. -/
theorem array_induction {motive : Schema → Prop} (leaf : ∀ s, s.item? = none → motive s)
    (array : ∀ s item, s.item? = some item → motive item → motive s) (s : Schema) : motive s := by
  cases h : s.item? with
  | none => exact leaf s h
  | some item =>
    have : sizeOf item < sizeOf s := sizeOf_item_lt h
    exact array s item h (array_induction leaf array item)
termination_by sizeOf s

theorem core_item? (s : Schema) : s.core.item? = none := by
  induction s using array_induction with
  | leaf s h => rw [core_of_item?_none h, h]
  | array s item h ih => rw [core_of_item?_some h, ih]

theorem sizeOf_core_le (s : Schema) : sizeOf s.core ≤ sizeOf s := by
  induction s using array_induction with
  | leaf s h => exact Nat.le_of_eq (congrArg sizeOf (core_of_item?_none h))
  | array s item h ih =>
    rw [core_of_item?_some h]
    exact Nat.le_trans ih (Nat.le_of_lt (sizeOf_item_lt h))

theorem record?_eq_some {s r : Schema} {d : Nat} (h : s.record? = some (d, r)) :
    d = s.depth ∧ r = s.core ∧ r.isRecord = true := by
  unfold record? at h
  split at h
  · cases h
    exact ⟨rfl, rfl, by assumption⟩
  · cases h

theorem record?_eq_none {s : Schema} : s.record? = none ↔ s.core.isRecord = false := by
  simp [record?]

/-- A record is an object that is no reference. -/
theorem isRecord_iff {s : Schema} :
    s.isRecord = true ↔ present? s.keywords.ref = none ∧ s.keywords.kind = .object ∧
      (s.title?.isSome = true ∨ s.properties ≠ []) := by
  simp [isRecord, reference?, and_assoc]

/-! ## 2. Through properties -/

theorem sizeOf_properties_lt (s : Schema) : sizeOf s.properties < sizeOf s := by
  obtain ⟨k, items, ps⟩ := s
  show sizeOf ps < sizeOf (node k items ps)
  simp only [node.sizeOf_spec]
  omega

theorem sizeOf_record_lt {s r : Schema} {d : Nat} (h : s.record? = some (d, r)) (key : String)
    (rest : List (String × Schema)) : sizeOf r.properties < sizeOf ((key, s) :: rest) := by
  obtain ⟨_, rfl, _⟩ := record?_eq_some h
  have h1 := sizeOf_properties_lt s.core
  have h2 := sizeOf_core_le s
  simp only [List.cons.sizeOf_spec, Prod.mk.sizeOf_spec]
  omega

/-- Through the properties of a record: each property in turn, and under it those of the record it
    leads to. -/
theorem properties_induction {motive : List (String × Schema) → Prop} (nil : motive [])
    (plain : ∀ key s rest, s.record? = none → motive rest → motive ((key, s) :: rest))
    (record : ∀ key s rest d r, s.record? = some (d, r) → motive r.properties → motive rest →
      motive ((key, s) :: rest))
    (ps : List (String × Schema)) : motive ps := by
  match ps with
  | [] => exact nil
  | (key, s) :: rest =>
    have : sizeOf rest < sizeOf ((key, s) :: rest) := by
      simp only [List.cons.sizeOf_spec]
      omega
    have ih := properties_induction nil plain record rest
    match h : s.record? with
    | none => exact plain key s rest h ih
    | some (d, r) =>
      have := sizeOf_record_lt h key rest
      exact record key s rest d r h (properties_induction nil plain record r.properties) ih
termination_by sizeOf ps

/-! ## 3. Titles -/

mutual

/-- The titles anywhere in a schema. -/
def titles : Schema → List String
  | .node k items properties =>
      let below := titlesIn properties
      let own := (present? k.title).toList
      match items with
      | some item => own ++ titles item ++ below
      | none => own ++ below

/-- The titles anywhere in the schemas of properties. -/
def titlesIn : List (String × Schema) → List String
  | [] => []
  | (_, schema) :: rest => titles schema ++ titlesIn rest

end

theorem mem_titles_of_title? {s : Schema} {title : String} (h : s.title? = some title) :
    title ∈ s.titles := by
  obtain ⟨k, items, properties⟩ := s
  have h' : present? k.title = some title := h
  cases items <;> simp [titles, h']

theorem mem_titles_of_mem_titlesIn {s : Schema} {title : String}
    (h : title ∈ titlesIn s.properties) : title ∈ s.titles := by
  obtain ⟨k, items, properties⟩ := s
  have h' : title ∈ titlesIn properties := h
  cases items <;> simp [titles, h']

theorem mem_titles_of_mem_core {s : Schema} {title : String} (h : title ∈ s.core.titles) :
    title ∈ s.titles := by
  induction s using array_induction with
  | leaf s hs =>
    rw [core_of_item?_none hs] at h
    exact h
  | array s item hs ih =>
    rw [core_of_item?_some hs] at h
    obtain ⟨k, properties, rfl, _⟩ := item?_eq_some hs
    simp [titles, ih h]

/-! ## 4. New titles -/

/-- A record with a new title is one under the same arrays. -/
theorem depth_retitle (name : String) (s : Schema) : (s.retitle name s.depth).depth = s.depth := by
  induction s using array_induction with
  | leaf s h =>
    rw [depth_of_item?_none h]
    obtain ⟨k, items, properties⟩ := s
    exact depth_of_item?_none h
  | array s item h ih =>
    rw [depth_of_item?_some h]
    obtain ⟨k, properties, rfl, hr, hk⟩ := item?_eq_some h
    simp [retitle, depth, hr, hk, ih]

theorem core_retitle (name : String) (s : Schema) :
    (s.retitle name s.depth).core = s.core.retitle name 0 := by
  induction s using array_induction with
  | leaf s h =>
    rw [depth_of_item?_none h, core_of_item?_none h]
    obtain ⟨k, items, properties⟩ := s
    exact core_of_item?_none h
  | array s item h ih =>
    rw [depth_of_item?_some h, core_of_item?_some h]
    obtain ⟨k, properties, rfl, hr, hk⟩ := item?_eq_some h
    simp [retitle, core, hr, hk, ih]

end SchemaRecords.Schema

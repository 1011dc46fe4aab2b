import SchemaRecords.Proofs.Schema.Path

/-!
# Items of items

* `itemAt` -- the schema some arrays down; a new title leaves it as it is but for its own title
  (`itemAt_retitle`);
* `names` -- the texts that names of types are made of: the titles, references and keys anywhere in
  a schema. Those of its items, of its properties and of the records under it are among them.
-/

namespace SchemaRecords.Schema

variable {s item : Schema} {name : String}

/-! ## 1. Some arrays down -/

/-- The schema of the items, the given number of arrays down; none down, it is the schema itself. -/
def itemAt : Nat → Schema → Option Schema
  | 0, s => some s
  | level + 1, s => s.item?.bind (itemAt level)

theorem itemAt_succ {level : Nat} :
    s.itemAt (level + 1) = some item ↔ ∃ below, s.item? = some below ∧
      below.itemAt level = some item := by
  rw [itemAt, Option.bind_eq_some_iff]

/-- A schema that says the same as another one but for the title, and has items where that has. -/
structure SameButTitle (s t : Schema) : Prop where
  keywords : ∃ title, t.keywords = { s.keywords with title := title }
  items : t.items = none ↔ s.items = none

theorem sameButTitle_retitle (name : String) (depth : Nat) (s : Schema) :
    SameButTitle s (s.retitle name depth) := by
  obtain ⟨k, items, properties⟩ := s
  cases depth with
  | zero => exact ⟨⟨some name, rfl⟩, Iff.rfl⟩
  | succ depth =>
    cases items with
    | none => exact ⟨⟨k.title, rfl⟩, Iff.rfl⟩
    | some item => exact ⟨⟨k.title, rfl⟩, iff_of_false nofun nofun⟩

theorem item?_retitle {below : Schema} {depth : Nat} (h : s.item? = some below) :
    (s.retitle name depth).item? =
      some (match depth with | 0 => below | depth + 1 => below.retitle name depth) := by
  obtain ⟨k, properties, rfl, hr, hk⟩ := item?_eq_some h
  cases depth <;> simp [retitle, item?, hr, hk]

/-- **A new title leaves the arrays as they are.** -/
theorem itemAt_retitle {level : Nat} (h : s.itemAt level = some item) (name : String)
    (depth : Nat) :
    ∃ item', (s.retitle name depth).itemAt level = some item' ∧ SameButTitle item item' := by
  induction level generalizing s depth with
  | zero =>
    cases h
    exact ⟨_, rfl, sameButTitle_retitle name depth item⟩
  | succ level ih =>
    obtain ⟨below, hbelow, hitem⟩ := itemAt_succ.mp h
    cases depth with
    | zero =>
      exact ⟨item, itemAt_succ.mpr ⟨below, item?_retitle hbelow, hitem⟩, ⟨_, rfl⟩, Iff.rfl⟩
    | succ depth =>
      obtain ⟨item', hitem', hsame⟩ := ih hitem depth
      exact ⟨item', itemAt_succ.mpr ⟨_, item?_retitle hbelow, hitem'⟩, hsame⟩

/-! ## 2. Names -/

mutual

/-- The titles, references and keys anywhere in a schema. -/
def names : Schema → List String
  | .node k items properties =>
      let own := k.title.toList ++ k.ref.toList ++ namesIn properties
      match items with
      | some item => own ++ names item
      | none => own

/-- The keys of properties, and the names anywhere in their schemas. -/
def namesIn : List (String × Schema) → List String
  | [] => []
  | (key, s) :: rest => key :: names s ++ namesIn rest

end

theorem mem_names_of_title (h : s.keywords.title = some name) : name ∈ s.names := by
  obtain ⟨k, items, properties⟩ := s
  have h' : k.title = some name := h
  cases items <;> simp [names, h']

theorem mem_names_of_ref (h : s.keywords.ref = some name) : name ∈ s.names := by
  obtain ⟨k, items, properties⟩ := s
  have h' : k.ref = some name := h
  cases items <;> simp [names, h']

theorem namesIn_subset (s : Schema) : namesIn s.properties ⊆ s.names := by
  intro name h
  obtain ⟨k, items, properties⟩ := s
  have h' : name ∈ namesIn properties := h
  cases items <;> simp [names, h']

theorem names_subset_of_item? (h : s.item? = some item) : item.names ⊆ s.names := by
  obtain ⟨k, properties, rfl, _⟩ := item?_eq_some h
  intro name hname
  simp [names, hname]

theorem names_core_subset (s : Schema) : s.core.names ⊆ s.names := by
  induction s using array_induction with
  | leaf s h =>
    rw [core_of_item?_none h]
    exact List.Subset.refl _
  | array s item h ih =>
    rw [core_of_item?_some h]
    exact List.Subset.trans ih (names_subset_of_item? h)

theorem mem_namesIn {key : String} {ps : List (String × Schema)} (h : (key, s) ∈ ps) :
    key ∈ namesIn ps ∧ s.names ⊆ namesIn ps := by
  induction ps with
  | nil => cases h
  | cons p rest ih =>
    obtain ⟨first, t⟩ := p
    unfold namesIn
    rcases List.mem_cons.mp h with e | h
    · cases e
      exact ⟨List.mem_cons_self, fun name hname =>
        List.mem_cons_of_mem _ (List.mem_append_left _ hname)⟩
    · obtain ⟨hkey, hnames⟩ := ih h
      exact ⟨List.mem_cons_of_mem _ (List.mem_append_right _ hkey), fun name hname =>
        List.mem_cons_of_mem _ (List.mem_append_right _ (hnames hname))⟩

/-- The names of a property are among those of the schema around it. -/
theorem names_property_subset {key : String} {position : Nat} {t : Schema}
    (h : s.properties[position]? = some (key, t)) : key ∈ s.names ∧ t.names ⊆ s.names := by
  obtain ⟨hkey, hnames⟩ := mem_namesIn (List.mem_of_getElem? h)
  exact ⟨namesIn_subset s hkey, List.Subset.trans hnames (namesIn_subset s)⟩

/-- **The names of a record under a schema are among those of the schema.** -/
theorem names_target_subset {path : Path} (h : s.Leads path) :
    (path.target s).names ⊆ s.names := by
  induction path generalizing s with
  | nil => exact List.Subset.refl _
  | cons step path ih =>
    obtain ⟨⟨t, hp, hr⟩, hl⟩ := h
    obtain ⟨_, hrecord, _⟩ := record?_eq_some hr
    have hbelow : step.record.names ⊆ s.names := by
      rw [hrecord]
      exact List.Subset.trans (names_core_subset t) (names_property_subset hp).2
    exact List.Subset.trans (ih hl) hbelow

/-- A new title brings in no other name. -/
theorem mem_names_retitle {depth : Nat} {title : String}
    (h : name ∈ (s.retitle title depth).names) : name = title ∨ name ∈ s.names := by
  induction depth generalizing s with
  | zero =>
    obtain ⟨k, items, properties⟩ := s
    cases items <;> simp only [retitle, names] at h ⊢ <;> grind
  | succ depth ih =>
    obtain ⟨k, items, properties⟩ := s
    cases items with
    | none => exact Or.inr h
    | some item =>
      simp only [retitle, names, List.mem_append] at h ⊢
      grind

end SchemaRecords.Schema

import SchemaRecords.Proofs.Record.Undescribed
import SchemaRecords.Proofs.Schema.WellFormed

/-!
# Documents without descriptions

What two documents share that differ in descriptions alone.

* `Value.undescribed` -- a document without its descriptions, wherever a schema stands in it, and
  without all else that is passed over;
* `get_undescribedEntries`, `keywords_undescribedEntries` -- what is read of its entries;
* `ofValue_undescribed` -- **it stands for the schema without descriptions**, and for none where the
  document stands for none;
* `SameButDescribed` -- texts of documents that differ in descriptions alone.
-/

namespace SchemaRecords.Document

/-! ## 1. Documents without descriptions -/

/-- The words of a schema that say something of the value itself, but for its description. -/
def ownWords : List Scalar :=
  ["type", "$ref", "format", "enum", "required", "title", "nullable"].map .text

mutual

/-- A document without its descriptions. -/
def Value.undescribed : Value → Value
  | .mapping entries => .mapping (undescribedEntries entries)
  | v => v

/-- The entries of a schema: its own words as they are, its items and its properties without
    descriptions, and no others. -/
def undescribedEntries : List (Scalar × Value) → List (Scalar × Value)
  | [] => []
  | (key, value) :: rest =>
      let below := undescribedEntries rest
      if key == .text "items" then (key, undescribedItems value) :: below
      else if key == .text "properties" then (key, undescribedProperties value) :: below
      else if ownWords.contains key then (key, value) :: below
      else below

/-- A value at `items`; only a mapping and a truth value are looked at there. -/
def undescribedItems : Value → Value
  | .mapping entries => .mapping (undescribedEntries entries)
  | .scalar (.bool b) => .scalar (.bool b)
  | _ => .null

/-- A value at `properties`. -/
def undescribedProperties : Value → Value
  | .mapping entries => .mapping (undescribedParts entries)
  | v => v

/-- The properties themselves, whatever their names. -/
def undescribedParts : List (Scalar × Value) → List (Scalar × Value)
  | [] => []
  | (name, value) :: rest => (name, value.undescribed) :: undescribedParts rest

end

/-! ## 2. What is read of the entries -/

/-- What becomes of the value of a key. -/
def undescribedAt (key : Scalar) (v : Value) : Value :=
  if key == .text "items" then undescribedItems v
  else if key == .text "properties" then undescribedProperties v
  else if ownWords.contains key then v
  else .null

theorem undescribedAt_null (key : Scalar) : undescribedAt key .null = .null := by
  unfold undescribedAt
  split
  · rfl
  · split
    · rfl
    · split <;> rfl

/-- **The value of a word without descriptions** is what becomes of its value. -/
theorem get_undescribedEntries (word : String) (entries : Entries) :
    get word (undescribedEntries entries) = undescribedAt (.text word) (get word entries) := by
  induction entries with
  | nil => exact (undescribedAt_null _).symm
  | cons e rest ih =>
    obtain ⟨key, value⟩ := e
    rw [undescribedEntries, get_cons]
    by_cases hkey : key = .text word
    · subst hkey
      rw [if_pos rfl]
      by_cases hitems : (Scalar.text word == .text "items") = true
      · rw [undescribedAt, if_pos hitems, if_pos hitems, get_cons, if_pos rfl]
      by_cases hproperties : (Scalar.text word == .text "properties") = true
      · rw [undescribedAt, if_neg hitems, if_pos hproperties, if_neg hitems, if_pos hproperties,
          get_cons, if_pos rfl]
      by_cases hown : ownWords.contains (.text word) = true
      · rw [undescribedAt, if_neg hitems, if_neg hproperties, if_pos hown, if_neg hitems,
          if_neg hproperties, if_pos hown, get_cons, if_pos rfl]
      · -- the entry is left out, and so are all others of the same word
        rw [undescribedAt, if_neg hitems, if_neg hproperties, if_neg hown] at ih ⊢
        rw [if_neg hitems, if_neg hproperties, if_neg hown, ih]
    · rw [if_neg hkey, ← ih]
      split
      · rw [get_cons, if_neg hkey]
      · split
        · rw [get_cons, if_neg hkey]
        · split
          · rw [get_cons, if_neg hkey]
          · rfl

/-- What a mapping says of the value itself is still there. -/
theorem get_own {word : String} (hword : .text word ∈ ownWords) (entries : Entries) :
    get word (undescribedEntries entries) = get word entries := by
  have hitems : ¬(Scalar.text word == .text "items") = true := by
    intro h
    rw [eq_of_beq h] at hword
    exact absurd hword (by decide)
  have hproperties : ¬(Scalar.text word == .text "properties") = true := by
    intro h
    rw [eq_of_beq h] at hword
    exact absurd hword (by decide)
  rw [get_undescribedEntries, undescribedAt, if_neg hitems, if_neg hproperties,
    if_pos (List.contains_iff_mem.mpr hword)]

/-- The properties are there without descriptions. -/
theorem get_properties (entries : Entries) :
    get "properties" (undescribedEntries entries) =
      undescribedProperties (get "properties" entries) := by
  rw [get_undescribedEntries, undescribedAt, if_neg (by decide), if_pos (by decide)]

/-- The description is not. -/
theorem get_description (entries : Entries) :
    get "description" (undescribedEntries entries) = .null := by
  rw [get_undescribedEntries, undescribedAt, if_neg (by decide), if_neg (by decide),
    if_neg (by decide)]

end SchemaRecords.Document

namespace SchemaRecords

open Document Schema

/-- The keywords are those of the mapping without the description. -/
theorem keywords_undescribedEntries (entries : Entries) :
    Keywords.ofEntries (undescribedEntries entries) =
      (Keywords.ofEntries entries).undescribed := by
  have hown (word : String) (hword : .text word ∈ ownWords) :
      get word (undescribedEntries entries) = get word entries := get_own hword entries
  simp only [Keywords.ofEntries, hown "type" (by decide), hown "$ref" (by decide),
    hown "format" (by decide), hown "enum" (by decide), hown "required" (by decide),
    hown "title" (by decide), hown "nullable" (by decide), get_description]
  rfl

/-! ## 3. Tables of properties -/

theorem undescribedIn_assign (name : String) (s : Schema) (table : List (String × Schema)) :
    undescribedIn (assign name s table) = assign name s.undescribed (undescribedIn table) := by
  induction table with
  | nil => rfl
  | cons first rest ih =>
    obtain ⟨other, t⟩ := first
    rw [undescribedIn, assign, assign]
    split
    · rfl
    · rw [undescribedIn, ih]

theorem undescribedIn_append_singleton (ps : List (String × Schema)) (name : String) (s : Schema) :
    undescribedIn (ps ++ [(name, s)]) = undescribedIn ps ++ [(name, s.undescribed)] := by
  induction ps with
  | nil => rfl
  | cons first rest ih =>
    obtain ⟨other, t⟩ := first
    rw [List.cons_append, undescribedIn, undescribedIn, ih, List.cons_append]

/-- A table of properties without descriptions is made of the properties without descriptions. -/
theorem undescribedIn_assignAll (ps : List (String × Schema)) :
    undescribedIn (assignAll ps) = assignAll (undescribedIn ps) := by
  induction ps using List.reverseRecOn with
  | nil => rfl
  | append_singleton ps last ih =>
    obtain ⟨name, s⟩ := last
    rw [undescribedIn_append_singleton, assignAll_append_singleton, assignAll_append_singleton,
      undescribedIn_assign, ih]

/-! ## 4. Reading -/

/-- A mapping without descriptions can be written before its items are looked at. -/
theorem ensureWritable_undescribed_before {entries : Entries}
    (h : (Value.mapping entries).IsJson) :
    ensureWritable (textsBefore (undescribedEntries entries)) = .ok () := by
  have hsame : textsBefore (undescribedEntries entries) = textsBefore entries := by
    unfold textsBefore
    rw [get_own (by decide), get_own (by decide)]
  rw [hsame, ensureWritable_textsBefore h]

/-- And after its properties have been. -/
theorem ensureWritable_undescribed_after {entries : Entries}
    (h : (Value.mapping entries).IsJson) :
    ensureWritable (textsAfter (undescribedEntries entries)) = .ok () := by
  have hrequired : get "required" (undescribedEntries entries) = get "required" entries :=
    get_own (by decide) entries
  have htitle : get "title" (undescribedEntries entries) = get "title" entries :=
    get_own (by decide) entries
  refine ensureWritable_textsAfter_of ?_ ?_ ?_
  · rw [hrequired]
    exact isJson_get h "required"
  · rw [htitle]
    exact isJson_get h "title"
  · rw [get_description]
    trivial

theorem admitsProperties_undescribed (v : Value) :
    admitsProperties (undescribedProperties v) = admitsProperties v := by
  cases v <;> rfl

mutual

/-- **A part without descriptions** stands for the schema without descriptions. -/
theorem partOf_undescribed : ∀ v : Value, v.IsJson →
    partOf v.undescribed = (partOf v).map Schema.undescribed
  | .scalar s, _ => by
    rw [Value.undescribed]
    cases s <;> rfl
    nofun
  | .list items, _ => by
    rw [Value.undescribed]
    · rfl
    · nofun
  | .pair _ _, h => h.elim
  | .set _, h => h.elim
  | .mapping entries, h => by
    have hitems := itemsOf_undescribed entries h.2.1
    have hproperties := propertiesOf_undescribed entries h.2.1
    rw [Value.undescribed, partOf_of_writable (ensureWritable_undescribed_before h)
      (ensureWritable_undescribed_after h), partOf_of_writable (ensureWritable_textsBefore h)
      (ensureWritable_textsAfter h), get_properties,
      admitsProperties_undescribed, hitems, hproperties, keywords_undescribedEntries]
    split
    · cases itemsOf entries with
      | error fault => rfl
      | ok items =>
        cases propertiesOf entries with
        | error fault => rfl
        | ok properties =>
          show Except.ok _ = Except.ok (Schema.undescribed _)
          rw [undescribed_node, undescribedIn_assignAll]
    · rfl

/-- The items are those of the mapping without descriptions. -/
theorem itemsOf_undescribed : ∀ entries : List (Scalar × Value), EntriesJson entries →
    itemsOf (undescribedEntries entries) = (itemsOf entries).map (Option.map Schema.undescribed)
  | [], _ => rfl
  | (key, value) :: rest, h => by
    have hrest := itemsOf_undescribed rest h.2
    have hvalue := partOf_undescribed value h.1
    rw [undescribedEntries]
    by_cases hkey : key = .text "items"
    · subst hkey
      rw [if_pos (beq_self_eq_true _), itemsOf_first, itemsOf_first]
      cases value with
      | mapping entries =>
        rw [Value.undescribed] at hvalue
        rw [undescribedItems, itemsAt, hvalue, itemsAt]
        cases partOf (.mapping entries) <;> rfl
      | scalar s => cases s <;> rfl
      | _ => rfl
    · rw [if_neg fun hsame => hkey (eq_of_beq hsame), itemsOf_skip hkey, ← hrest]
      split
      · exact itemsOf_skip hkey _ _
      · split
        · exact itemsOf_skip hkey _ _
        · rfl

/-- The properties are those of the mapping without descriptions. -/
theorem propertiesOf_undescribed : ∀ entries : List (Scalar × Value), EntriesJson entries →
    propertiesOf (undescribedEntries entries) = (propertiesOf entries).map undescribedIn
  | [], _ => rfl
  | (key, value) :: rest, h => by
    have hrest := propertiesOf_undescribed rest h.2
    rw [undescribedEntries]
    by_cases hkey : key = .text "properties"
    · subst hkey
      rw [if_neg (by decide), if_pos (beq_self_eq_true _), propertiesOf_first,
        propertiesOf_first]
      cases value with
      | mapping entries => exact partsOf_undescribed entries h.1.1.texts h.1.2.1
      | scalar s => cases s <;> rfl
      | _ => rfl
    · rw [propertiesOf_skip hkey, ← hrest]
      split
      · exact propertiesOf_skip hkey _ _
      · rw [if_neg fun hsame => hkey (eq_of_beq hsame)]
        split
        · exact propertiesOf_skip hkey _ _
        · rfl

theorem partsOf_undescribed : ∀ entries : List (Scalar × Value), TextKeys entries →
    EntriesJson entries → partsOf (undescribedParts entries) = (partsOf entries).map undescribedIn
  | [], _, _ => rfl
  | (key, value) :: rest, htexts, h => by
    obtain ⟨name, rfl⟩ : ∃ name, key = .text name := htexts _ List.mem_cons_self
    have hfirst := partOf_undescribed value h.1
    have hrest := partsOf_undescribed rest (fun e he => htexts e (List.mem_cons_of_mem _ he)) h.2
    rw [undescribedParts, partsOf_cons, partsOf_cons, hfirst, hrest]
    cases partOf value with
    | error fault => rfl
    | ok schema => cases partsOf rest <;> rfl

end

/-- **A document without descriptions stands for the schema without descriptions.** -/
theorem ofValue_undescribed {v : Value} (h : v.IsJson) :
    Schema.ofValue v.undescribed = (Schema.ofValue v).map Schema.undescribed := by
  cases v with
  | scalar s => cases s <;> rfl
  | mapping entries =>
    have hpart := partOf_undescribed (.mapping entries) h
    rw [Value.undescribed] at hpart ⊢
    exact hpart
  | _ => rfl

/-! ## 5. Texts -/

/-- The texts are the same, or both are of documents that differ in descriptions alone. -/
def SameButDescribed (text other : String) : Prop :=
  text = other ∨ ∃ v w, Value.ofJson text = .ok v ∧ Value.ofJson other = .ok w ∧
    v.undescribed = w.undescribed

theorem ofJson_undescribed {text : String} {v : Value} (h : Value.ofJson text = .ok v) :
    (Schema.ofJson text).map Schema.undescribed =
      (Schema.ofValue v.undescribed).mapError .ofSchema := by
  have hread : Schema.ofJson text = (Schema.ofValue v).mapError .ofSchema := by
    rw [Schema.ofJson, h]
    rfl
  rw [hread, ofValue_undescribed (Json.isJson_of_ofJson h)]
  cases Schema.ofValue v <;> rfl

/-- The schemas of such texts differ in descriptions alone; where one has a fault, the other has the
    same. -/
theorem SameButDescribed.ofJson {text other : String} (h : SameButDescribed text other) :
    (Schema.ofJson text).map Schema.undescribed = (Schema.ofJson other).map Schema.undescribed := by
  rcases h with rfl | ⟨v, w, hv, hw, hsame⟩
  · rfl
  · rw [ofJson_undescribed hv, ofJson_undescribed hw, hsame]

end SchemaRecords

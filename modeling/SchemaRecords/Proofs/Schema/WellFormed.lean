import SchemaRecords.Proofs.Document.Equality
import SchemaRecords.Proofs.Json.Reading
import SchemaRecords.Proofs.Record.Policies
import SchemaRecords.Proofs.Schema.Members

/-!
# Documents that stand for a schema

Which values of JSON texts can be read as a schema, and what becomes of the others.

* `ensureWritable_textsBefore`, `partOf_of_writable` -- a value of a JSON text can be written, so
  only the shape of its parts is looked at;
* `WellFormed` -- the mappings whose `properties` and `items` have the shape of schemas, at any
  depth;
* `settles_partOf` -- reading has a result exactly for these, and is at fault for the shape of the
  others;
* `generates_iff_wellFormed` -- **a source is generated exactly for these** where names get
  numbers, whatever their other words hold.
-/

namespace SchemaRecords.Document

/-- Values of which all can be written. -/
theorem areWritable_iff {items : List Value} :
    areWritable items = true ↔ ∀ v ∈ items, v.isWritable = true := by
  induction items with
  | nil => simp [areWritable]
  | cons v rest ih => rw [areWritable, Bool.and_eq_true, ih, List.forall_mem_cons]

end SchemaRecords.Document

namespace SchemaRecords

open Document

/-! ## 1. Reading a value of a JSON text -/

/-- The items of a list in a JSON text are such values. -/
theorem isJson_of_mem_listOf? {v item : Value} (hv : v.IsJson)
    (h : item ∈ (listOf? v).getD []) : item.IsJson := by
  cases v with
  | list items => exact areJson_iff.mp hv item h
  | _ => exact absurd h List.not_mem_nil

/-- A mapping of a JSON text can be written before its items are looked at. -/
theorem ensureWritable_textsBefore {entries : Entries} (h : (Value.mapping entries).IsJson) :
    ensureWritable (textsBefore entries) = .ok () := by
  have hwritable : areWritable (textsBefore entries) = true := by
    refine areWritable_iff.mpr fun v hv => ?_
    rcases List.mem_cons.mp hv with rfl | hv
    · exact (isJson_get h "$ref").isWritable
    · rw [List.mem_singleton.mp hv]
      exact (isJson_get h "format").isWritable
  rw [ensureWritable, if_pos hwritable]

/-- And after its properties have been, if the values are such whose texts are made then. -/
theorem ensureWritable_textsAfter_of {entries : Entries}
    (hrequired : (get "required" entries).IsJson) (htitle : (get "title" entries).IsJson)
    (hdescription : (get "description" entries).IsJson) :
    ensureWritable (textsAfter entries) = .ok () := by
  have hwritable : areWritable (textsAfter entries) = true := by
    refine areWritable_iff.mpr fun v hv => ?_
    rcases List.mem_append.mp hv with hv | hv
    · exact (isJson_of_mem_listOf? hrequired hv).isWritable
    · rcases List.mem_cons.mp hv with rfl | hv
      · exact htitle.isWritable
      · rw [List.mem_singleton.mp hv]
        exact hdescription.isWritable
  rw [ensureWritable, if_pos hwritable]

theorem ensureWritable_textsAfter {entries : Entries} (h : (Value.mapping entries).IsJson) :
    ensureWritable (textsAfter entries) = .ok () :=
  ensureWritable_textsAfter_of (isJson_get h "required") (isJson_get h "title")
    (isJson_get h "description")

/-- A mapping that can be written is read as what its items and its properties are read as. -/
theorem partOf_of_writable {entries : Entries}
    (hbefore : ensureWritable (textsBefore entries) = .ok ())
    (hafter : ensureWritable (textsAfter entries) = .ok ()) :
    partOf (.mapping entries) =
      if admitsProperties (get "properties" entries) then do
        let items ← itemsOf entries
        let properties ← propertiesOf entries
        return .node (.ofEntries entries) items (assignAll properties)
      else .error .badProperties := by
  rw [partOf, hbefore, hafter]
  rfl

/-- The first of the properties, then the others. -/
theorem partsOf_cons (name : String) (value : Value) (rest : Entries) :
    partsOf ((.text name, value) :: rest) = do
      let schema ← partOf value
      let more ← partsOf rest
      return (name, schema) :: more := by
  rw [partsOf]
  rfl

/-- Any other value than a truth value stands for no schema. -/
theorem partOf_other {v : Value} (htruth : ∀ b, v ≠ .scalar (.bool b))
    (hmapping : ∀ entries, v ≠ .mapping entries) : partOf v = .error (.notMapping v.kindName) := by
  rw [partOf]
  · exact htruth
  · exact hmapping

/-! ## 2. Well-formed documents -/

/-- The values that count as nothing: nothing at all, no truth, a zero, and an empty text, list,
    mapping or set, and no octets. -/
inductive Vacant : Value → Prop
  | nothing : Vacant .null
  | untrue : Vacant (.scalar (.bool false))
  | zero : Vacant (.scalar (.int 0))
  | fraction (negative : Bool) (exponent : Int) :
      Vacant (.scalar (.float (.finite negative 0 exponent)))
  | text : Vacant (.text "")
  | list : Vacant (.list [])
  | mapping : Vacant (.mapping [])
  | octets : Vacant (.scalar (.bytes []))
  | set : Vacant (.set [])

mutual

/-- The values that are well-formed: mappings whose `properties` are, and whose `items`, if they
    are a mapping, are well-formed. -/
inductive WellFormed : Value → Prop
  | mapping {entries : Entries} (hproperties : PropertiesFormed (get "properties" entries))
      (hitems : ∀ below, get "items" entries = .mapping below → WellFormed (.mapping below)) :
      WellFormed (.mapping entries)

/-- The values that are so at `properties`: those that count as nothing, and the mappings whose
    values are so each. -/
inductive PropertiesFormed : Value → Prop
  | vacant {v : Value} (h : Vacant v) : PropertiesFormed v
  | mapping {entries : Entries} (h : ∀ e ∈ entries, PartFormed e.2) :
      PropertiesFormed (.mapping entries)

/-- The values that are so as one of the properties: truth values and well-formed values. -/
inductive PartFormed : Value → Prop
  | truth (b : Bool) : PartFormed (.scalar (.bool b))
  | formed {v : Value} (h : WellFormed v) : PartFormed v

end

theorem vacant_iff {v : Value} : Vacant v ↔ v.truthy = false := by
  constructor
  · intro h
    cases h <;> rfl
  · intro h
    cases v with
    | scalar s =>
      cases s with
      | null => exact .nothing
      | bool b =>
        obtain rfl : b = false := h
        exact .untrue
      | int n =>
        obtain rfl : n = 0 := by simpa [Value.truthy] using h
        exact .zero
      | float x =>
        cases x with
        | finite negative mantissa exponent =>
          obtain rfl : mantissa = 0 := by simpa [Value.truthy, Number.Double.isZero] using h
          exact .fraction negative exponent
        | _ => cases h
      | text s =>
        obtain rfl : s = "" := by simpa [Value.truthy] using h
        exact .text
      | bytes octets =>
        obtain rfl : octets = [] := by simpa [Value.truthy] using h
        exact .octets
      | _ => cases h
    | list items =>
      obtain rfl : items = [] := by simpa [Value.truthy] using h
      exact .list
    | mapping entries =>
      obtain rfl : entries = [] := by simpa [Value.truthy] using h
      exact .mapping
    | pair first second => cases h
    | set items =>
      obtain rfl : items = [] := by simpa [Value.truthy] using h
      exact .set

/-- Values that are so at `properties` are admitted there. -/
theorem PropertiesFormed.admits {v : Value} (h : PropertiesFormed v) :
    admitsProperties v = true := by
  cases h with
  | mapping h => rfl
  | vacant h => cases h <;> rfl

/-- Values that are admitted at `properties` are so there if their entries are. -/
theorem propertiesFormed_iff {v : Value} (h : admitsProperties v = true) :
    PropertiesFormed v ↔ ∀ entries, v = .mapping entries → ∀ e ∈ entries, PartFormed e.2 := by
  constructor
  · rintro hv entries rfl
    cases hv with
    | mapping h => exact h
    | vacant h =>
      cases h
      exact List.forall_mem_nil _
  · intro hentries
    cases v with
    | mapping entries => exact .mapping (hentries entries rfl)
    | _ => exact .vacant (vacant_iff.mpr (Bool.not_eq_true' _ ▸ h))

theorem partFormed_mapping {entries : Entries} :
    PartFormed (.mapping entries) ↔ WellFormed (.mapping entries) := by
  constructor
  · intro h
    cases h with
    | formed h => exact h
  · exact .formed

/-- Well-formed values are mappings. -/
theorem not_wellFormed {v : Value} (h : ∀ entries, v ≠ .mapping entries) : ¬WellFormed v := by
  intro hv
  cases hv with
  | mapping => exact h _ rfl

/-! ## 3. Reading settles the shape -/

/-- A fault of the shape of a value: it is not that a number is too long to be written. -/
def SchemaFault.OfShape (fault : SchemaFault) : Prop := ∀ f, fault ≠ .tooLong f

/-- There is a result exactly where a condition holds; otherwise there is a fault of shape. -/
inductive Settles {α : Type} (p : Prop) : Except SchemaFault α → Prop
  | result (a : α) (h : p) : Settles p (.ok a)
  | fault {fault : SchemaFault} (hshape : fault.OfShape) (h : ¬p) : Settles p (.error fault)

section

variable {α β : Type} {p q : Prop} {x : Except SchemaFault α}

theorem Settles.of_iff (h : Settles p x) (hiff : p ↔ q) : Settles q x := by
  cases h with
  | result a h => exact .result a (hiff.mp h)
  | fault hshape h => exact .fault hshape fun hq => h (hiff.mpr hq)

/-- A sequence settles what its steps settle. -/
theorem Settles.bind (h : Settles p x) {f : α → Except SchemaFault β}
    (hf : ∀ a, Settles q (f a)) : Settles (p ∧ q) (x >>= f) := by
  cases h with
  | result a h => exact (hf a).of_iff (and_iff_right h).symm
  | fault hshape h => exact .fault hshape fun hpq => h hpq.1

theorem Settles.map (h : Settles p x) (f : α → β) : Settles p (x.map f) := by
  cases h with
  | result a h => exact .result (f a) h
  | fault hshape h => exact .fault hshape h

end

mutual

/-- **Reading a part settles whether it is one.** -/
theorem settles_partOf : ∀ v : Value, v.IsJson → Settles (PartFormed v) (partOf v)
  | .scalar s, _ => by
    by_cases htruth : ∃ b, s = .bool b
    · obtain ⟨b, rfl⟩ := htruth
      rw [partOf]
      exact .result _ (.truth b)
    · have hother : ∀ b, Value.scalar s ≠ .scalar (.bool b) :=
        fun b hb => htruth ⟨b, Value.scalar.inj hb⟩
      rw [partOf_other hother nofun]
      refine .fault nofun fun h => ?_
      cases h with
      | truth b => exact hother b rfl
      | formed h => exact absurd h (not_wellFormed nofun)
  | .list items, _ => by
    rw [partOf_other (v := .list items) nofun nofun]
    refine .fault nofun fun h => ?_
    cases h with
    | formed h => exact absurd h (not_wellFormed nofun)
  | .pair _ _, h => h.elim
  | .set _, h => h.elim
  | .mapping entries, h => by
    rw [partOf_of_writable (ensureWritable_textsBefore h) (ensureWritable_textsAfter h)]
    have hitems := settles_itemsOf entries h.2.1
    have hproperties := settles_propertiesOf entries h.2.1
    split
    · rename_i hadmits
      -- items are read before properties, so the conditions stand the other way round
      have hsettles := hitems.bind fun items => hproperties.bind fun properties =>
        Settles.result (Schema.node (.ofEntries entries) items (assignAll properties)) trivial
      refine hsettles.of_iff ?_
      rw [partFormed_mapping, and_true, ← propertiesFormed_iff hadmits]
      constructor
      · rintro ⟨hi, hp⟩
        exact .mapping hp hi
      · rintro ⟨hp, hi⟩
        exact ⟨hi, hp⟩
    · rename_i hadmits
      refine .fault nofun fun hformed => hadmits ?_
      cases partFormed_mapping.mp hformed with
      | mapping hp hi => exact hp.admits

/-- Reading the items settles whether they are well-formed, if they are a mapping. -/
theorem settles_itemsOf : ∀ entries : List (Scalar × Value), EntriesJson entries →
    Settles (∀ below, get "items" entries = .mapping below → WellFormed (.mapping below))
      (itemsOf entries)
  | [], _ => .result none nofun
  | (key, value) :: rest, h => by
    rw [get_cons]
    by_cases hkey : key = .text "items"
    · rw [if_pos hkey, hkey, itemsOf_first]
      have hvalue := settles_partOf value h.1
      cases value with
      | mapping below =>
        have hpart := (hvalue.of_iff partFormed_mapping).map some
        refine hpart.of_iff ?_
        constructor
        · rintro hbelow other hother
          rw [← Value.mapping.inj hother]
          exact hbelow
        · exact fun hall => hall below rfl
      | scalar s => cases s <;> exact .result _ nofun
      | _ => exact .result _ nofun
    · rw [if_neg hkey, itemsOf_skip hkey]
      exact settles_itemsOf rest h.2

/-- Reading the properties settles whether each of them is a part. -/
theorem settles_propertiesOf : ∀ entries : List (Scalar × Value), EntriesJson entries →
    Settles (∀ ps, get "properties" entries = .mapping ps → ∀ e ∈ ps, PartFormed e.2)
      (propertiesOf entries)
  | [], _ => .result [] nofun
  | (key, value) :: rest, h => by
    rw [get_cons]
    by_cases hkey : key = .text "properties"
    · rw [if_pos hkey, hkey, propertiesOf_first]
      cases value with
      | mapping ps =>
        have hparts := settles_partsOf ps h.1.1.texts h.1.2.1
        refine hparts.of_iff ?_
        constructor
        · rintro hall other hother
          rw [← Value.mapping.inj hother]
          exact hall
        · exact fun hall => hall ps rfl
      | _ => exact .result [] nofun
    · rw [if_neg hkey, propertiesOf_skip hkey]
      exact settles_propertiesOf rest h.2

theorem settles_partsOf : ∀ entries : List (Scalar × Value), TextKeys entries →
    EntriesJson entries → Settles (∀ e ∈ entries, PartFormed e.2) (partsOf entries)
  | [], _, _ => .result [] (List.forall_mem_nil _)
  | (key, value) :: rest, htexts, h => by
    obtain ⟨name, rfl⟩ : ∃ name, key = .text name := htexts _ List.mem_cons_self
    have hfirst := settles_partOf value h.1
    have hrest := settles_partsOf rest (fun e he => htexts e (List.mem_cons_of_mem _ he)) h.2
    rw [partsOf_cons]
    have hsettles := hfirst.bind fun schema => hrest.bind fun more =>
      Settles.result ((name, schema) :: more) trivial
    refine hsettles.of_iff ?_
    rw [and_true, List.forall_mem_cons]

end

/-- **Reading a value of a JSON text settles whether it is well-formed.** -/
theorem settles_ofValue {v : Value} (h : v.IsJson) : Settles (WellFormed v) (Schema.ofValue v) := by
  by_cases htruth : ∃ b, v = .scalar (.bool b)
  · obtain ⟨b, rfl⟩ := htruth
    exact .fault nofun (not_wellFormed nofun)
  · have hother : ∀ b, v ≠ .scalar (.bool b) := fun b hb => htruth ⟨b, hb⟩
    rw [Schema.ofValue]
    · refine (settles_partOf v h).of_iff ⟨fun hpart => ?_, .formed⟩
      cases hpart with
      | truth b => exact absurd rfl (hother b)
      | formed h => exact h
    · exact hother

/-! ## 4. Sources of documents -/

open Name Record

/-- The source of the schema that a value stands for. -/
def sourceOfValue (v : Value) (root space policy : String) : Outcome Fault String := do
  let schema ← Outcome.ofExcept ((Schema.ofValue v).mapError .ofSchema)
  sourceOfSchema schema root space policy

/-- Where names get numbers, every schema has a source. -/
theorem exists_sourceOfSchema (schema : Schema) (root space : String) :
    ∃ source, (sourceOfSchema schema root space "suffix").result = .ok source := by
  have hpolicy : (Scope.new Policy.number none).policy = .number := rfl
  obtain ⟨declarations, scope, _, hroot⟩ := emitRoot_numbers schema root hpolicy
  have hrun : (Record.ofSchema schema root .number).result = .ok declarations :=
    Outcome.result_bind_eq_ok.mpr ⟨_, hroot, rfl⟩
  have hdeclared : (declarationsOfSchema schema root "suffix").result = .ok declarations := by
    have hname := declarationsOfSchema_name schema root .number
    rw [show "suffix" = Policy.number.name from rfl, hname]
    exact Outcome.result_mapError_eq_ok.mpr hrun
  exact ⟨_, Outcome.result_bind_eq_ok.mpr ⟨declarations, hdeclared, rfl⟩⟩

/-- **Which documents generate.** Where names get numbers, a value of a JSON text has a source if it
    is well-formed, under any root name and in any namespace, and otherwise the fault is that of the
    shape of a schema. Nothing else can go wrong, whatever its other words hold. -/
theorem generates_iff_wellFormed {text : String} {v : Value} (h : Value.ofJson text = .ok v)
    (root space : String) :
    (WellFormed v → ∃ source, (sourceOfValue v root space "suffix").result = .ok source) ∧
    (¬WellFormed v → ∃ fault : SchemaFault, fault.OfShape ∧
      (sourceOfValue v root space "suffix").result = .error (.schema fault)) := by
  have hsettles := settles_ofValue (Json.isJson_of_ofJson h)
  unfold sourceOfValue
  revert hsettles
  generalize Schema.ofValue v = read
  intro hsettles
  cases hsettles with
  | result schema hformed =>
    refine ⟨fun _ => ?_, fun hnot => absurd hformed hnot⟩
    obtain ⟨source, hsource⟩ := exists_sourceOfSchema schema root space
    exact ⟨source, Outcome.result_bind_eq_ok.mpr ⟨schema, rfl, hsource⟩⟩
  | @fault fault hshape hnot =>
    refine ⟨fun hformed => absurd hformed hnot, fun _ => ⟨fault, hshape, ?_⟩⟩
    refine Outcome.result_bind_eq_error.mpr (Or.inl ?_)
    cases fault with
    | tooLong f => exact absurd rfl (hshape f)
    | _ => rfl

/-- A document whose other words hold values of any kind. -/
def looseText : String :=
  "\x7b\"type\": 5, \"$ref\": 0, \"nullable\": [null], \"properties\": \x7b\"on\": true, " ++
    "\"part\": \x7b\"items\": [7], \"properties\": 0.0, \"required\": \x7b\x7d\x7d\x7d\x7d"

/-- The part of it that is a mapping. -/
def loosePart : Entries :=
  [(.text "items", .list [.scalar (.int 7)]),
    (.text "properties", .scalar (.float (.finite false 0 (-1074)))),
    (.text "required", .mapping [])]

/-- Its value. -/
def looseValue : Value :=
  .mapping [(.text "type", .scalar (.int 5)), (.text "$ref", .scalar (.int 0)),
    (.text "nullable", .list [.null]),
    (.text "properties", .mapping [(.text "on", .scalar (.bool true)),
      (.text "part", .mapping loosePart)])]

/-- A document whose items have a list of properties. -/
def listedText : String :=
  "\x7b\"title\": \"Sheet\", \"items\": \x7b\"properties\": [1]\x7d\x7d"

/-- Its value. -/
def listedValue : Value :=
  .mapping [(.text "title", .text "Sheet"),
    (.text "items", .mapping [(.text "properties", .list [.scalar (.int 1)])])]

theorem wellFormed_looseValue : WellFormed looseValue := by
  have hpart : WellFormed (.mapping loosePart) :=
    .mapping (.vacant (.fraction false (-1074))) nofun
  refine .mapping (.mapping ?_) nofun
  intro e he
  rcases List.mem_cons.mp he with rfl | he
  · exact .truth true
  · rw [List.mem_singleton.mp he]
    exact .formed hpart

theorem not_wellFormed_listedValue : ¬WellFormed listedValue := by
  intro h
  cases h with
  | mapping _ hitems =>
    cases hitems _ rfl with
    | mapping hproperties _ =>
      have hadmits := hproperties.admits
      exact absurd hadmits (by decide)

theorem generates_iff_wellFormed_loose_listed :
    Value.ofJson looseText = .ok looseValue ∧
      (∃ source, (sourceOfValue looseValue "Loose" "App" "suffix").result = .ok source) ∧
      Value.ofJson listedText = .ok listedValue ∧
      ∃ fault : SchemaFault, fault.OfShape ∧
        (sourceOfValue listedValue "Sheet" "App" "suffix").result = .error (.schema fault) := by
  have hloose : Value.ofJson looseText = .ok looseValue := by decide +kernel
  have hlisted : Value.ofJson listedText = .ok listedValue := by decide +kernel
  obtain ⟨hsource, _⟩ := generates_iff_wellFormed hloose "Loose" "App"
  obtain ⟨_, hfault⟩ := generates_iff_wellFormed hlisted "Sheet" "App"
  exact ⟨hloose, hsource wellFormed_looseValue, hlisted, hfault not_wellFormed_listedValue⟩

end SchemaRecords

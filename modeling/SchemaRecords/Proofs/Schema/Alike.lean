import SchemaRecords.Proofs.Schema.Displayable

/-!
# What is read of a document

A schema is read from ten words of a mapping, and from those of the mappings below it that stand for
schemas. Whatever else is there, the order of the words, and whether a truth value below the top is
true do not count.

* `Alike` -- two documents that agree on what is read of them;
* `partOf_alike` -- they are read alike, with a result or with the same fault;
* `alike_reads` -- so are whole documents, and where texts can be made of what is read, only their
  shape is at fault.
-/

namespace SchemaRecords

open Document

/-! ## 1. Documents that agree on what is read of them -/

/-- The words whose values are read as they are. -/
def readWords : List String :=
  ["type", "$ref", "format", "enum", "title", "description", "nullable"]

/-- Two values at `required`: the same one, or lists of the same values, in any order and however
    often each is there. -/
def SameRequired (v w : Value) : Prop :=
  v = w ∨ ∃ names others, v = .list names ∧ w = .list others ∧ ∀ name, name ∈ names ↔ name ∈ others

mutual

/-- **Two documents that agree on what is read of them.** -/
inductive Alike : Value → Value → Prop
  | truth (a b : Bool) : Alike (.scalar (.bool a)) (.scalar (.bool b))
  | mapping {entries others : Entries}
      (words : ∀ word ∈ readWords, get word entries = get word others)
      (required : SameRequired (get "required" entries) (get "required" others))
      (items : ItemsAlike (get "items" entries) (get "items" others))
      (properties : PropertiesAlike (get "properties" entries) (get "properties" others)) :
      Alike (.mapping entries) (.mapping others)
  | same (v : Value) : Alike v v

/-- Two values at `items`: they are alike, or neither is read as a schema. -/
inductive ItemsAlike : Value → Value → Prop
  | parts {v w : Value} (h : Alike v w) : ItemsAlike v w
  | passed {v w : Value} (hv : ¬IsPart v) (hw : ¬IsPart w) : ItemsAlike v w

/-- Two values at `properties`: mappings with alike parts, or the same one. -/
inductive PropertiesAlike : Value → Value → Prop
  | mapping {entries others : Entries} (h : PartsAlike entries others) :
      PropertiesAlike (.mapping entries) (.mapping others)
  | same (v : Value) : PropertiesAlike v v

/-- Two mappings with the same keys, in the same order, whose values are alike. -/
inductive PartsAlike : List (Scalar × Value) → List (Scalar × Value) → Prop
  | nil : PartsAlike [] []
  | cons (key : Scalar) {v w : Value} {entries others : List (Scalar × Value)} (first : Alike v w)
      (rest : PartsAlike entries others) : PartsAlike ((key, v) :: entries) ((key, w) :: others)

end

variable {v w : Value} {entries others : Entries}

/-! ## 2. What a mapping says of the value itself -/

theorem mem_required_iff (h : SameRequired v w) (name : Value) :
    name ∈ (listOf? v).getD [] ↔ name ∈ (listOf? w).getD [] := by
  obtain rfl | ⟨names, others, rfl, rfl, hsame⟩ := h
  · exact Iff.rfl
  · exact hsame name

/-- Mappings that agree say the same of the value itself. -/
theorem ofEntries_alike (words : ∀ word ∈ readWords, get word entries = get word others)
    (required : SameRequired (get "required" entries) (get "required" others)) :
    Keywords.ofEntries entries = Keywords.ofEntries others := by
  have hrequired : nameSet (((listOf? (get "required" entries)).getD []).map Value.display) =
      nameSet (((listOf? (get "required" others)).getD []).map Value.display) := by
    refine nameSet_congr fun name => ?_
    simp only [List.mem_map, mem_required_iff required]
  simp only [Keywords.ofEntries, hrequired, words "type" (by decide), words "$ref" (by decide),
    words "format" (by decide), words "enum" (by decide), words "title" (by decide),
    words "description" (by decide), words "nullable" (by decide)]

theorem ensureWritable_congr {values more : List Value} (h : ∀ v, v ∈ values ↔ v ∈ more) :
    ensureWritable values = ensureWritable more := by
  have hsame : areWritable values = areWritable more := by
    rw [Bool.eq_iff_iff, areWritable_iff, areWritable_iff]
    simp only [h]
  rw [ensureWritable, hsame, ensureWritable]

/-- They need the same texts before the items, -/
theorem textsBefore_alike (words : ∀ word ∈ readWords, get word entries = get word others) :
    textsBefore entries = textsBefore others := by
  rw [textsBefore, words "$ref" (by decide), words "format" (by decide), textsBefore]

/-- and the same ones after the properties, though maybe in another order. -/
theorem ensureWritable_textsAfter_alike
    (words : ∀ word ∈ readWords, get word entries = get word others)
    (required : SameRequired (get "required" entries) (get "required" others)) :
    ensureWritable (textsAfter entries) = ensureWritable (textsAfter others) := by
  refine ensureWritable_congr fun v => ?_
  simp only [textsAfter, List.mem_append, mem_required_iff required, words "title" (by decide),
    words "description" (by decide)]

/-! ## 3. Reading -/

theorem itemsAt_of_partOf (h : Alike v w) (hpart : partOf v = partOf w) :
    itemsAt v = itemsAt w := by
  cases h with
  | truth a b => exact congrArg (Except.map some) hpart
  | mapping => exact congrArg (Except.map some) hpart
  | same => rfl

theorem admitsProperties_alike (h : PropertiesAlike v w) :
    admitsProperties v = admitsProperties w := by
  cases h <;> rfl

mutual

/-- **Documents that agree on what is read of them are read alike**, below the top. -/
theorem partOf_alike : ∀ {v w : Value}, Alike v w → partOf v = partOf w
  | _, _, .truth a b => by rw [partOf, partOf]
  | _, _, .mapping words required items properties => by
    have hitems := itemsAt_alike items
    have hproperties := propertiesAt_alike properties
    rw [partOf, partOf, admitsProperties_alike properties, textsBefore_alike words,
      itemsOf_eq, itemsOf_eq, hitems, propertiesOf_eq, propertiesOf_eq, hproperties,
      ensureWritable_textsAfter_alike words required, ofEntries_alike words required]
  | _, _, .same v => rfl

/-- Their items are, -/
theorem itemsAt_alike : ∀ {v w : Value}, ItemsAlike v w → itemsAt v = itemsAt w
  | _, _, .parts h => itemsAt_of_partOf h (partOf_alike h)
  | _, _, .passed hv hw => by rw [itemsAt_of_not_isPart hv, itemsAt_of_not_isPart hw]

/-- and their properties, -/
theorem propertiesAt_alike : ∀ {v w : Value}, PropertiesAlike v w →
    propertiesAt v = propertiesAt w
  | _, _, .mapping h => partsOf_alike h
  | _, _, .same v => rfl

/-- one after the other. -/
theorem partsOf_alike : ∀ {entries others : List (Scalar × Value)}, PartsAlike entries others →
    partsOf entries = partsOf others
  | _, _, .nil => rfl
  | _, _, .cons key first rest => by
    have hfirst := partOf_alike first
    have hrest := partsOf_alike rest
    rw [partsOf, partsOf, hfirst, hrest]

end

/-- At the top, a truth value is no schema, be it true or not. -/
theorem ofValue_alike (h : Alike v w) : Schema.ofValue v = Schema.ofValue w := by
  have hpart := partOf_alike h
  cases h with
  | truth a b => rfl
  | mapping => exact hpart
  | same => rfl

/-! ## 4. Whole documents -/

/-- **Documents that agree on what is read of them stand for the same schema, or for none by the
    same fault.** It is one of their shape, unless a text is made of too long a number. -/
theorem alike_reads (h : Alike v w) :
    Schema.ofValue v = Schema.ofValue w ∧
      (Displayable v → FaultsIn SchemaFault.OfShape (Schema.ofValue v)) :=
  ⟨ofValue_alike h, ofShape_ofValue⟩

/-- A document with a property that holds a text and one that holds anything. -/
def petValue : Value :=
  .mapping [
    (.text "type", .text "object"),
    (.text "title", .text "Pet"),
    (.text "default", .mapping [(.text "properties", .list [])]),
    (.text "properties", .mapping [
      (.text "tag", .mapping [(.text "type", .text "string")]),
      (.text "more", .scalar (.bool true))]),
    (.text "required", .list [.text "tag", .text "more"])]

/-- The same with other words around, and in another order. -/
def petValueRestated : Value :=
  .mapping [
    (.text "required", .list [.text "more", .text "tag", .text "more"]),
    (.text "properties", .mapping [
      (.text "tag", .mapping [
        (.text "minLength", .scalar (.int 1)), (.text "type", .text "string")]),
      (.text "more", .scalar (.bool false))]),
    (.text "title", .text "Pet"),
    (.text "items", .list [.null]),
    (.text "type", .text "object")]

theorem alike_petValue : Alike petValue petValueRestated := by
  have htag : Alike (.mapping [(.text "type", .text "string")])
      (.mapping [(.text "minLength", .scalar (.int 1)), (.text "type", .text "string")]) :=
    .mapping (by simp [readWords, get_cons]) (.inl rfl) (.parts (.same _)) (.same _)
  refine .mapping (by simp [readWords, get_cons, Value.text]) (.inr ⟨_, _, rfl, rfl, ?_⟩)
    (.passed ?_ ?_) (.mapping (.cons _ htag (.cons _ (.truth true false) .nil)))
  · simp [or_comm]
  · rintro (⟨_, h⟩ | ⟨_, h⟩) <;> cases h
  · rintro (⟨_, h⟩ | ⟨_, h⟩) <;> cases h

theorem alike_reads_petValue :
    Alike petValue petValueRestated ∧ Displayable petValue ∧
      Schema.ofValue petValue = Schema.ofValue petValueRestated ∧
      FaultsIn SchemaFault.OfShape (Schema.ofValue petValue) := by
  have htexts : Displayable petValue :=
    (displayable_of_isWritable petValue (by decide +kernel)).1
  obtain ⟨hsame, hshape⟩ := alike_reads alike_petValue
  exact ⟨alike_petValue, htexts, hsame, hshape htexts⟩

/-- A document whose title is a whole number. -/
def numberTitle (n : Int) : Value := .mapping [(.text "title", .scalar (.int n))]

/-- A text is made of a title, so it must not be too long a number. -/
theorem ofValue_numberTitle {n : Int} (h : (Scalar.int n).isWritable = false) :
    Schema.ofValue (numberTitle n) = .error (.tooLong ⟨⟩) := by
  have hbefore : textsBefore [(.text "title", .scalar (.int n))] = [.null, .null] := by
    simp [textsBefore, get_cons]
  have hafter : textsAfter [(.text "title", .scalar (.int n))] = [.scalar (.int n), .null] := by
    simp [textsAfter, get_cons, listOf?, Value.null]
  rw [numberTitle, Schema.ofValue, partOf, itemsOf_eq, propertiesOf_eq, hbefore, hafter]
  · simp only [ensureWritable, areWritable, Value.isWritable, h]
    rfl
  · intro b hb
    cases hb

/-- The least whole number that is too long. -/
theorem firstUnwritable_not_isWritable : (Scalar.int firstUnwritable).isWritable = false := by
  rw [Scalar.isWritable, Int.natAbs_natCast]
  exact decide_eq_false (lt_irrefl _)

/-- **With too long a number for a title, a document is at fault for that**, and not for its
    shape. -/
theorem numberTitle_untold :
    Alike (numberTitle firstUnwritable) (numberTitle firstUnwritable) ∧
      ¬((∃ schema, Schema.ofValue (numberTitle firstUnwritable) = .ok schema) ∨
        ∃ fault, SchemaFault.OfShape fault ∧
          Schema.ofValue (numberTitle firstUnwritable) = .error fault) := by
  refine ⟨.same _, ?_⟩
  rw [ofValue_numberTitle firstUnwritable_not_isWritable]
  rintro (⟨schema, h⟩ | ⟨fault, hshape, h⟩)
  · cases h
  · cases h
    exact hshape ⟨⟩ rfl

end SchemaRecords

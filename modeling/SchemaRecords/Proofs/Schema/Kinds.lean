import SchemaRecords.Proofs.Schema.Members

/-!
# Lists of kinds

A schema may give a list of words for its kind. The rule is that words count without regard to
blanks around them and to case: the kind is that of the first word that is none for nothing, and
nothing is admitted if there is a word for it. The list is searched for the one spelling `null`,
though, and only what is left of it is read by the rule.

* `SameWord` -- words that are the same but for blanks around them and case;
* `listedKind`, `listsNothing` -- the rule; it is the same for the same words (`rule_congr`);
* `kindOf_wordList` -- what is read of a list of words;
* `KindKept`, `NothingKept` -- the lists of which the rule holds (`kind_eq_iff`, `nothing_eq_iff`);
* `ofValue_retyped` -- the kind is all that documents differ in that differ in their kinds;
* `words_read_iff` -- **documents whose lists have the same words are read by the rule exactly if it
  holds of the lists**, and are read alike where it does.
-/

namespace SchemaRecords

open Document

/-! ## 1. Words -/

/-- Words that are the same but for blanks around them and case. -/
def SameWord (word other : String) : Prop :=
  Text.lower (Text.trim word.toList) = Text.lower (Text.trim other.toList)

instance (word other : String) : Decidable (SameWord word other) :=
  inferInstanceAs (Decidable (_ = _))

theorem ofText_congr {word other : String} (h : SameWord word other) :
    Kind.ofText word = Kind.ofText other := by
  unfold Kind.ofText
  rw [h]

/-- Lists of the same words, in the same order. -/
def SameWords (words others : List String) : Prop := List.Forall₂ SameWord words others

instance (words others : List String) : Decidable (SameWords words others) :=
  inferInstanceAs (Decidable (List.Forall₂ _ _ _))

theorem map_ofText_congr {words others : List String} (h : SameWords words others) :
    words.map Kind.ofText = others.map Kind.ofText := by
  induction h with
  | nil => rfl
  | cons first _ ih => rw [List.map_cons, List.map_cons, ofText_congr first, ih]

/-! ## 2. The rule -/

/-- The kind of the first word that is none for nothing; that of nothing if there is no other. -/
def listedKind (words : List String) : Kind :=
  ((words.map Kind.ofText).find? (· != .null)).getD .null

/-- Whether there is a word for nothing. -/
def listsNothing (words : List String) : Bool := (words.map Kind.ofText).contains .null

/-- **By the rule, the same words have the same kind.** -/
theorem rule_congr {words others : List String} (h : SameWords words others) :
    listedKind words = listedKind others ∧ listsNothing words = listsNothing others := by
  have hkinds := map_ofText_congr h
  exact ⟨by rw [listedKind, hkinds, listedKind], by rw [listsNothing, hkinds, listsNothing]⟩

variable {words : List String}

theorem listsNothing_iff :
    listsNothing words = true ↔ ∃ word ∈ words, Kind.ofText word = .null := by
  rw [listsNothing, List.contains_iff_mem, List.mem_map]

theorem listedKind_eq_null_iff :
    listedKind words = .null ↔ ∀ word ∈ words, Kind.ofText word = .null := by
  unfold listedKind
  cases h : (words.map Kind.ofText).find? (· != .null) with
  | none =>
    have hall := List.find?_eq_none.mp h
    refine iff_of_true rfl fun word hword => ?_
    have hkind := hall _ (List.mem_map_of_mem hword)
    simpa using hkind
  | some kind =>
    have hne := List.find?_some h
    obtain ⟨word, hword, rfl⟩ := List.mem_map.mp (List.mem_of_find?_eq_some h)
    have hkind : Kind.ofText word ≠ .null := by simpa using hne
    exact iff_of_false hkind fun hall => hkind (hall word hword)

/-! ## 3. What is read -/

/-- A list of words as a value. -/
def wordList (words : List String) : Value := .list (words.map .text)

theorem filter_wordList (words : List String) :
    (words.map Value.text).filter (fun v => !v.isText "null") =
      (words.filter (· != "null")).map Value.text := by
  rw [List.filter_map]
  rfl

/-- **What is read of a list of words**: the kind of the first one that is not spelled `null`, and
    whether one is. -/
theorem kindOf_wordList (words : List String) :
    kindOf (wordList words) =
      (((words.find? (· != "null")).map Kind.ofText).getD .null, words.contains "null") := by
  have hshorter : decide ((words.filter (· != "null")).length < words.length) =
      words.contains "null" := by
    rw [Bool.eq_iff_iff, decide_eq_true_iff, List.length_filter_lt_length_iff_exists,
      List.contains_iff_mem]
    simp
  unfold wordList kindOf
  simp only [filter_wordList, List.length_map, ← List.head?_filter]
  rw [← hshorter]
  cases words.filter (· != "null") with
  | nil => rfl
  | cons first rest => rfl

/-- The kind is kept: the first word that is not spelled `null` is none for nothing, unless all
    are. -/
def KindKept (words : List String) : Prop :=
  ∀ word, words.find? (· != "null") = some word → Kind.ofText word = .null →
    ∀ other ∈ words, Kind.ofText other = .null

/-- That nothing is admitted is kept: if there is a word for it, then one that is spelled `null`. -/
def NothingKept (words : List String) : Prop := listsNothing words = true → "null" ∈ words

theorem ofText_null : Kind.ofText "null" = .null := by decide

/-- The words in front of the first one that is not spelled `null` do not count. -/
theorem listedKind_of_find? {word : String} (h : words.find? (· != "null") = some word)
    (hword : Kind.ofText word ≠ .null) : listedKind words = Kind.ofText word := by
  obtain ⟨_, front, rest, rfl, hfront⟩ := List.find?_eq_some_iff_append.mp h
  have hnull : ∀ kind ∈ front.map Kind.ofText, ¬(kind != .null) = true := by
    intro kind hkind
    obtain ⟨other, hother, rfl⟩ := List.mem_map.mp hkind
    have hspelled : other = "null" := by simpa using hfront other hother
    rw [hspelled, ofText_null]
    decide
  have hnone := List.find?_eq_none.mpr hnull
  have hne : (Kind.ofText word != .null) = true := bne_iff_ne.mpr hword
  rw [listedKind, List.map_append, List.find?_append, hnone, List.map_cons, List.find?_cons, hne]
  rfl

/-- **The kind is read by the rule exactly if it is kept.** -/
theorem kind_eq_iff : (kindOf (wordList words)).1 = listedKind words ↔ KindKept words := by
  rw [kindOf_wordList]
  unfold KindKept
  dsimp only
  cases hfirst : words.find? (· != "null") with
  | none =>
    have hall : ∀ word ∈ words, Kind.ofText word = .null := by
      intro word hword
      have hspelled : word = "null" := by simpa using List.find?_eq_none.mp hfirst word hword
      rw [hspelled, ofText_null]
    exact iff_of_true (listedKind_eq_null_iff.mpr hall).symm nofun
  | some first =>
    rw [Option.map_some, Option.getD_some]
    by_cases hnull : Kind.ofText first = .null
    · rw [hnull, eq_comm, listedKind_eq_null_iff]
      constructor
      · exact fun hall _ _ _ => hall
      · exact fun hkept => hkept first rfl hnull
    · refine iff_of_true (listedKind_of_find? hfirst hnull).symm ?_
      intro word hword hkind
      obtain rfl := Option.some.inj hword
      exact absurd hkind hnull

instance (words : List String) : Decidable (KindKept words) := decidable_of_iff _ kind_eq_iff

instance (words : List String) : Decidable (NothingKept words) :=
  inferInstanceAs (Decidable (_ → _))

/-- **That nothing is admitted is read by the rule exactly if it is kept**, or said besides. -/
theorem nothing_eq_iff (words : List String) (said : Bool) :
    (said || (kindOf (wordList words)).2) = (said || listsNothing words) ↔
      said = true ∨ NothingKept words := by
  have hlists : words.contains "null" = true → listsNothing words = true := by
    intro hmem
    exact listsNothing_iff.mpr ⟨"null", List.contains_iff_mem.mp hmem, ofText_null⟩
  rw [kindOf_wordList]
  unfold NothingKept
  rw [← List.contains_iff_mem]
  dsimp only
  cases said with
  | true => exact iff_of_true rfl (Or.inl rfl)
  | false =>
    rw [Bool.false_or, Bool.false_or, or_iff_right Bool.false_ne_true, Bool.eq_iff_iff]
    exact ⟨fun h => h.mpr, fun h => ⟨hlists, h⟩⟩

/-- Where the kind is not kept, that of nothing is read, though not all words are for it. -/
theorem kind_of_not_kept (h : ¬KindKept words) :
    (kindOf (wordList words)).1 = .null ∧ listedKind words ≠ .null := by
  unfold KindKept at h
  push Not at h
  obtain ⟨first, hfirst, hnull, other, hother, hkind⟩ := h
  constructor
  · rw [kindOf_wordList, hfirst, Option.map_some, Option.getD_some, hnull]
  · exact fun hall => hkind (listedKind_eq_null_iff.mp hall other hother)

/-- **Lists of the same words are read as the same kind** exactly if both keep it or neither
    does. -/
theorem kind_congr_iff {others : List String} (h : SameWords words others) :
    (kindOf (wordList words)).1 = (kindOf (wordList others)).1 ↔
      (KindKept words ↔ KindKept others) := by
  have hrule := (rule_congr h).1
  by_cases hkept : KindKept words
  · rw [kind_eq_iff.mpr hkept, hrule, eq_comm, kind_eq_iff]
    exact (iff_true_left hkept).symm
  · obtain ⟨hnull, hlisted⟩ := kind_of_not_kept hkept
    by_cases hkept' : KindKept others
    · rw [hnull, kind_eq_iff.mpr hkept', ← hrule]
      exact iff_of_false hlisted.symm fun hboth => hkept (hboth.mpr hkept')
    · rw [hnull, (kind_of_not_kept hkept').1]
      exact iff_of_true rfl (iff_of_false hkept hkept')

/-- **They admit nothing alike** exactly if both keep it or neither does, or it is said besides. -/
theorem nothing_congr_iff (said : Bool) {others : List String} (h : SameWords words others) :
    (said || (kindOf (wordList words)).2) = (said || (kindOf (wordList others)).2) ↔
      said = true ∨ (NothingKept words ↔ NothingKept others) := by
  have hrule := (rule_congr h).2
  cases said with
  | true => exact iff_of_true rfl (Or.inl rfl)
  | false =>
    have hwords := nothing_eq_iff words false
    have hothers := nothing_eq_iff others false
    simp only [Bool.false_or, Bool.false_eq_true, false_or] at hwords hothers ⊢
    rw [← hwords, ← hothers, hrule]
    -- of two truth values that both are a third one or both are not, each is the other
    cases (kindOf (wordList words)).2 <;> cases (kindOf (wordList others)).2 <;>
      cases listsNothing others <;> decide

/-! ## 4. Documents -/

/-- Documents that differ in nothing that is read but their kinds. -/
def SameButType (entries others : Entries) : Prop :=
  ∀ word, word ≠ "type" → get word entries = get word others

/-- A schema with other keywords. -/
def Schema.withKeywords (k : Keywords) : Schema → Schema
  | .node _ items properties => .node k items properties

section

variable {entries others : Entries}

/-- **The kind is all that documents differ in that differ in their kinds.** -/
theorem ofValue_retyped (h : SameButType entries others) :
    Schema.ofValue (.mapping others) =
      (Schema.ofValue (.mapping entries)).map (Schema.withKeywords (.ofEntries others)) := by
  have hbefore : textsBefore others = textsBefore entries := by
    simp only [textsBefore, h "$ref" (by decide), h "format" (by decide)]
  have hafter : textsAfter others = textsAfter entries := by
    simp only [textsAfter, h "required" (by decide), h "title" (by decide),
      h "description" (by decide)]
  rw [Schema.ofValue, Schema.ofValue, partOf, partOf, itemsOf_eq, itemsOf_eq, propertiesOf_eq,
    propertiesOf_eq, hbefore, hafter, h "items" (by decide), h "properties" (by decide)]
  · split
    · cases ensureWritable (textsBefore entries) with
      | error fault => rfl
      | ok _ =>
        cases itemsAt (get "items" others) with
        | error fault => rfl
        | ok items =>
          cases propertiesAt (get "properties" others) with
          | error fault => rfl
          | ok properties => cases ensureWritable (textsAfter entries) <;> rfl
    · rfl
  · intro _ e
    cases e
  · intro _ e
    cases e

theorem keywords_of_ofValue {schema : Schema}
    (h : Schema.ofValue (.mapping entries) = .ok schema) :
    schema.keywords = .ofEntries entries := by
  have hself : SameButType entries entries := fun _ _ => rfl
  rw [ofValue_retyped hself] at h
  obtain ⟨⟨k, items, properties⟩, _, rfl⟩ := map_eq_ok.mp h
  rfl

/-- Whether a document says of itself that nothing is admitted. -/
def saysNothing (entries : Entries) : Bool := (get "nullable" entries).truthy

/-- Such documents say the same of themselves exactly if they have the same kind and admit nothing
    alike. -/
theorem ofEntries_eq_iff (h : SameButType entries others) :
    Keywords.ofEntries entries = Keywords.ofEntries others ↔
      (kindOf (get "type" entries)).1 = (kindOf (get "type" others)).1 ∧
        (saysNothing entries || (kindOf (get "type" entries)).2) =
          (saysNothing entries || (kindOf (get "type" others)).2) := by
  unfold Keywords.ofEntries saysNothing
  simp only [h "$ref" (by decide), h "format" (by decide), h "enum" (by decide),
    h "required" (by decide), h "title" (by decide), h "description" (by decide),
    h "nullable" (by decide), Keywords.mk.injEq, true_and]

/-- They have the same schema exactly if they say the same of themselves, or both have none. -/
theorem ofValue_eq_iff (h : SameButType entries others) :
    Schema.ofValue (.mapping entries) = Schema.ofValue (.mapping others) ↔
      (∃ fault, Schema.ofValue (.mapping entries) = .error fault) ∨
        Keywords.ofEntries entries = Keywords.ofEntries others := by
  rw [ofValue_retyped h]
  cases hread : Schema.ofValue (.mapping entries) with
  | error fault => exact iff_of_true rfl (Or.inl ⟨fault, rfl⟩)
  | ok schema =>
    have hkeywords := keywords_of_ofValue hread
    obtain ⟨k, items, properties⟩ := schema
    obtain rfl : k = .ofEntries entries := hkeywords
    rw [or_iff_right nofun]
    show Except.ok (Schema.node _ items properties) = .ok (.node _ items properties) ↔ _
    rw [Except.ok.injEq, Schema.node.injEq, and_iff_left rfl, and_iff_left rfl]

/-- **Lists of the same words are read by the rule exactly if it is kept in them, and alike exactly
    if it is kept in both or in neither.** The rule gives the same words the same kind. Nothing else
    in a document hangs on its list. -/
theorem words_read_iff {words spellings : List String}
    (hwords : get "type" entries = wordList words)
    (hspellings : get "type" others = wordList spellings) (hsame : SameWords words spellings)
    (hrest : SameButType entries others) :
    (listedKind words = listedKind spellings ∧ listsNothing words = listsNothing spellings) ∧
    (∀ schema, Schema.ofValue (.mapping entries) = .ok schema →
      (schema.keywords.kind = listedKind words ↔ KindKept words) ∧
      (schema.keywords.nullable = (saysNothing entries || listsNothing words) ↔
        saysNothing entries = true ∨ NothingKept words)) ∧
    (Schema.ofValue (.mapping entries) = Schema.ofValue (.mapping others) ↔
      (∃ fault, Schema.ofValue (.mapping entries) = .error fault) ∨
        (KindKept words ↔ KindKept spellings) ∧
          (saysNothing entries = true ∨ (NothingKept words ↔ NothingKept spellings))) := by
  refine ⟨rule_congr hsame, fun schema hschema => ?_, ?_⟩
  · have hkind : schema.keywords.kind = (kindOf (wordList words)).1 := by
      rw [keywords_of_ofValue hschema, Keywords.ofEntries, hwords]
    have hnothing : schema.keywords.nullable =
        (saysNothing entries || (kindOf (wordList words)).2) := by
      rw [keywords_of_ofValue hschema, Keywords.ofEntries, hwords, saysNothing]
    rw [hkind, hnothing]
    exact ⟨kind_eq_iff, nothing_eq_iff words _⟩
  · rw [ofValue_eq_iff hrest, ofEntries_eq_iff hrest, hwords, hspellings, kind_congr_iff hsame,
      nothing_congr_iff _ hsame]

end

/-- A document with a list of words for its kind. -/
def kindEntries (words : List String) : Entries :=
  [(.text "title", .text "Name"), (.text "type", wordList words)]

theorem sameButType_kindEntries (words others : List String) :
    SameButType (kindEntries words) (kindEntries others) := by
  intro word hword
  have hkey : (Scalar.text "type" = .text word) = False := by simp [Ne.symm hword]
  simp only [kindEntries, get_cons, hkey, if_false]

theorem get_kindEntries (words : List String) :
    get "type" (kindEntries words) = wordList words := by
  simp [kindEntries, get_cons]

/-- Such a document has a schema. -/
theorem exists_ofValue_kindEntries (words : List String) :
    ∃ schema, Schema.ofValue (.mapping (kindEntries words)) = .ok schema ∧
      schema.keywords.kind = (kindOf (wordList words)).1 ∧
      schema.keywords.nullable = (kindOf (wordList words)).2 := by
  refine ⟨.node (.ofEntries (kindEntries words)) none [], ?_, ?_, ?_⟩
  · rfl
  · rfl
  · rfl

theorem words_read_iff_text :
    SameWords ["null", " String", "NULL"] ["null", "string\n", "null"] ∧
      Schema.ofValue (.mapping (kindEntries ["null", " String", "NULL"])) =
        Schema.ofValue (.mapping (kindEntries ["null", "string\n", "null"])) ∧
      ∃ schema,
        Schema.ofValue (.mapping (kindEntries ["null", " String", "NULL"])) = .ok schema ∧
        schema.keywords.kind = .string ∧ schema.keywords.nullable = true := by
  have hsame : SameWords ["null", " String", "NULL"] ["null", "string\n", "null"] := by
    decide +kernel
  obtain ⟨_, hrule, halike⟩ := words_read_iff (get_kindEntries _) (get_kindEntries _) hsame
    (sameButType_kindEntries _ _)
  obtain ⟨schema, hschema, _⟩ := exists_ofValue_kindEntries ["null", " String", "NULL"]
  obtain ⟨hkind, hnothing⟩ := hrule schema hschema
  refine ⟨hsame, halike.mpr (Or.inr ⟨?_, Or.inr ?_⟩), schema, hschema, ?_, ?_⟩
  · exact iff_of_true (by decide +kernel) (by decide)
  · exact iff_of_true (by decide) (by decide +kernel)
  · exact (hkind.mpr (by decide +kernel)).trans (by decide +kernel)
  · exact (hnothing.mpr (Or.inr (by decide +kernel))).trans (by decide +kernel)

/-- **Another spelling of the word for nothing is taken for the kind.** -/
theorem spelled_nothing_read :
    SameWords ["NULL", "string"] ["null", "string"] ∧
      listedKind ["NULL", "string"] = .string ∧ listsNothing ["NULL", "string"] = true ∧
      (∃ schema, Schema.ofValue (.mapping (kindEntries ["NULL", "string"])) = .ok schema ∧
        schema.keywords.kind = .null ∧ schema.keywords.nullable = false) ∧
      ∃ schema, Schema.ofValue (.mapping (kindEntries ["null", "string"])) = .ok schema ∧
        schema.keywords.kind = .string ∧ schema.keywords.nullable = true := by
  have hread {words : List String} {kind : Kind} {nothing : Bool}
      (h : kindOf (wordList words) = (kind, nothing)) :
      ∃ schema, Schema.ofValue (.mapping (kindEntries words)) = .ok schema ∧
        schema.keywords.kind = kind ∧ schema.keywords.nullable = nothing := by
    have hschema := exists_ofValue_kindEntries words
    rw [h] at hschema
    exact hschema
  exact ⟨by decide +kernel, by decide +kernel, by decide +kernel, hread (by decide +kernel),
    hread (by decide +kernel)⟩

end SchemaRecords

import SchemaRecords.Proofs.Name.Unmarked
import SchemaRecords.Proofs.Nullable
import SchemaRecords.Proofs.Record.Capture
import SchemaRecords.Proofs.Schema.Items

/-!
# What fields and items admit

A value may be nothing where its schema says so, and a field also where its key is not required.
There its type, as it is written, is one that admits nothing; elsewhere it bears no mark for it. So
it is at the field itself and at the items of its arrays, however deep they are.

* `MayBeNothing` -- the schemas of values that may be nothing;
* `Marks` -- a type as it is written, with a mark where one is needed and only there;
* `marks_written` -- the type of a schema is written so, by itself and in a list;
* `exists_marks_itemAt` -- so are the types of all items in it;
* `fields_marked` -- so it is in every record of a run, where no name has a mark of its own.
-/

namespace SchemaRecords

open Name Schema

namespace TypeRef

variable {s item : Schema} {context : Option String} {name : String}

/-! ## 1. Values that may be nothing -/

/-- A schema of values that may be nothing. -/
def MayBeNothing (s : Schema) : Prop := s.keywords.nullable = true ∨ IsNothing s

theorem mayBeNothing_of_sameButTitle {t : Schema} (h : SameButTitle s t) :
    MayBeNothing t ↔ MayBeNothing s := by
  obtain ⟨title, h⟩ := h.keywords
  unfold MayBeNothing IsNothing reference?
  rw [h]

instance (s : Schema) : Decidable (MayBeNothing s) := inferInstanceAs (Decidable (_ ∨ _))

/-- **A type as it is written** for values that may be nothing, or may not: if they may, it is none
    that needs a mark and has none, and if not, it has none. -/
structure Marks (admits : Prop) (written : String) : Prop where
  admitted : admits → written ∉ valueTypes
  unmarked : ¬admits → Text.endsWith "?" written = false

/-- The type of a field as it is written. -/
def written (required : Bool) (t : TypeRef) : String := (if required then t else t.optional).render

theorem written_true (t : TypeRef) : written true t = t.render := rfl

/-- Where a type is written, a mark says that the schema admits nothing or the key is optional. -/
theorem written_ofName (required : Bool) (name : String) (nullable : Bool) :
    written required (ofName name nullable) = marked (nullable || !required) name := by
  cases required with
  | true => rw [written_true, render_ofName, Bool.not_true, Bool.or_false]
  | false =>
    unfold written render marked optional
    simp only [Bool.false_eq_true, if_false, Bool.not_false, Bool.or_true, name_ofName]

theorem not_endsWith_of_unmarked (h : Unmarked name) : Text.endsWith "?" name = false := by
  refine Bool.eq_false_iff.mpr fun hend => h ?_
  obtain ⟨front, e⟩ := List.isSuffixOf_iff_suffix.mp hend
  rw [← e]
  exact List.mem_append_right _ List.mem_cons_self

theorem not_endsWith_listOf (name : String) : Text.endsWith "?" (listOf name) = false := by
  refine Bool.eq_false_iff.mpr fun hend => ?_
  obtain ⟨front, e⟩ := List.isSuffixOf_iff_suffix.mp hend
  have hlast := congrArg List.getLast? e
  rw [toList_listOf, ← List.append_assoc, List.getLast?_append, List.getLast?_append] at hlast
  revert hlast
  simp

theorem listOf_not_mem_valueTypes (name : String) : listOf name ∉ valueTypes := fun h => by
  have hr := isReference_of_mem_valueTypes (List.contains_iff_mem.mpr h)
  rw [isReference_listOf] at hr
  cases hr

theorem marked_valueType_not_mem : ∀ name ∈ valueTypes, name ++ "?" ∉ valueTypes := by
  decide

/-- A name without a mark of its own gets one where it is needed, and only there. -/
theorem marks_marked (h : Unmarked name) (admits : Bool) :
    Marks (admits = true) (marked admits name) := by
  refine ⟨?_, fun hno => ?_⟩
  · rintro rfl
    unfold marked
    split
    · rename_i hmem
      exact marked_valueType_not_mem name (List.contains_iff_mem.mp hmem)
    · rename_i hmem
      exact fun hname => hmem (List.contains_iff_mem.mpr hname)
  · rw [marked, Bool.eq_false_iff.mpr hno, Bool.false_and, if_neg Bool.false_ne_true]
    exact not_endsWith_of_unmarked h

/-! ## 2. The type of a schema as it is written -/

/-- Schemas whose names have no question mark. -/
def AllUnmarked (s : Schema) : Prop := ∀ name ∈ s.names, Unmarked name

theorem unmarked_ofFormat (format : Option String) : Unmarked (ofFormat format) := by
  have hformats : ∀ e ∈ formats, Unmarked e.2 := by decide +kernel
  rcases ofFormat_cases format with h | ⟨e, he, h⟩
  · rw [h]
    decide
  · rw [h]
    exact hformats e he

theorem present?_eq_some {text : Option String} (h : present? text = some name) :
    text = some name :=
  (Option.filter_eq_some_iff.mp h).1

theorem unmarked_ofObject {title : Option String} (htitle : ∀ t ∈ title, Unmarked t)
    (hcontext : ∀ c ∈ context, Unmarked c) (hasProperties : Bool) :
    Unmarked (ofObject title hasProperties context) := by
  unfold ofObject
  split
  · exact (htitle _ rfl).pascal
  · exact (hcontext _ rfl).pascal
  · decide +kernel

/-- The name of the type of a schema has no question mark, unless it is a list or the type of
    nothing. -/
theorem unmarked_name (hs : s.item? = none) (hnothing : ¬IsNothing s) (hnames : AllUnmarked s)
    (hcontext : ∀ c ∈ context, Unmarked c) : Unmarked (ofSchemaIn context s).name := by
  have href {ref : String} (h : s.reference? = some ref) : Unmarked ref :=
    hnames ref (mem_names_of_ref (present?_eq_some h))
  have htitle : ∀ t ∈ s.title?, Unmarked t := fun t ht =>
    hnames t (mem_names_of_title (present?_eq_some ht))
  obtain ⟨k, items, properties⟩ := s
  unfold ofSchemaIn
  rw [name_ofName]
  cases hr : present? k.ref with
  | some ref => exact (href hr).ofReference
  | none =>
    cases hk : k.kind with
    | null => exact absurd ⟨hr, hk⟩ hnothing
    | string => exact unmarked_ofFormat _
    | array =>
      have hi : items = none := by simpa [item?, hr, hk] using hs
      subst hi
      dsimp only
      decide
    | object => exact unmarked_ofObject htitle hcontext _
    | _ =>
      dsimp only
      decide

/-- **The type of a schema is written with a mark where one is needed, and only there.** -/
theorem marks_written (hnames : AllUnmarked s) (hcontext : ∀ c ∈ context, Unmarked c)
    (required : Bool) :
    Marks (required = false ∨ MayBeNothing s) (written required (ofSchemaIn context s)) := by
  cases hitem : s.item? with
  | some item =>
    rw [ofSchemaIn_of_item? context hitem, written_ofName, marked_listOf]
    exact ⟨fun _ => listOf_not_mem_valueTypes _, fun _ => not_endsWith_listOf _⟩
  | none =>
    rw [ofSchemaIn_eq_ofName, written_ofName]
    by_cases hnothing : IsNothing s
    · rw [name_eq_nothing.mpr hnothing]
      refine ⟨fun _ => ?_, fun hno => absurd (Or.inr (Or.inr hnothing)) hno⟩
      rw [marked, nothing_not_mem_valueTypes, Bool.and_false, if_neg Bool.false_ne_true]
      decide
    · have hadmits : (required = false ∨ MayBeNothing s) ↔
          (s.keywords.nullable || !required) = true := by
        rw [MayBeNothing, or_iff_left hnothing, Bool.or_eq_true, Bool.not_eq_true', or_comm]
      obtain ⟨hadmitted, hunmarked⟩ :=
        marks_marked (unmarked_name hitem hnothing hnames hcontext) (s.keywords.nullable || !required)
      exact ⟨fun h => hadmitted (hadmits.mp h), fun h => hunmarked fun e => h (hadmits.mpr e)⟩

/-- A list of which nothing is known is written as one of anything. -/
theorem written_untyped (hr : s.reference? = none) (hk : s.keywords.kind = .array)
    (hi : s.items = none) (required : Bool) :
    written required (ofSchemaIn context s) = listOf anything := by
  obtain ⟨k, items, properties⟩ := s
  cases hi
  rw [ofSchemaIn_eq_ofName, written_ofName]
  have hname : (ofSchemaIn context (.node k none properties)).name = listOf anything := by
    unfold ofSchemaIn
    rw [name_ofName]
    rw [show present? k.ref = none from hr, show k.kind = .array from hk]
  rw [hname, marked_listOf]

/-! ## 3. Items of items -/

theorem Marks.congr {admits admits' : Prop} {text : String} (h : Marks admits text)
    (e : admits' ↔ admits) : Marks admits' text :=
  ⟨fun ha => h.admitted (e.mp ha), fun ha => h.unmarked fun ha' => ha (e.mpr ha')⟩

/-- What stands some lists down in a type as it is written: a type with a mark where it needs one,
    and only there; of a list of which nothing is known, a list of anything. -/
def MarkedAt (required : Bool) (level : Nat) (item : Schema) (text : String) : Prop :=
  Marks (level = 0 ∧ required = false ∨ MayBeNothing item) text ∧
    (item.reference? = none → item.keywords.kind = .array → item.items = none →
      text = listOf anything)

theorem MarkedAt.of_sameButTitle {required : Bool} {level : Nat} {item' : Schema} {text : String}
    (h : MarkedAt required level item' text) (hsame : SameButTitle item item') :
    MarkedAt required level item text := by
  refine ⟨h.1.congr (or_congr_right (mayBeNothing_of_sameButTitle hsame).symm), fun hr hk hi => ?_⟩
  obtain ⟨title, e⟩ := hsame.keywords
  refine h.2 ?_ ?_ (hsame.items.mpr hi)
  · rw [reference?, e]
    exact hr
  · rw [e]
    exact hk

/-- **The types of all items in the type of a schema bear marks as they should.** The induction goes
    down the lists: the type of a list is written around that of its items. -/
theorem exists_marks_itemAt {level : Nat} (h : s.itemAt level = some item)
    (hnames : AllUnmarked s) (hcontext : ∀ c ∈ context, Unmarked c) (required : Bool) :
    ∃ text, written required (ofSchemaIn context s) = listsOf level text ∧
      MarkedAt required level item text := by
  induction level generalizing s context required with
  | zero =>
    cases h
    refine ⟨_, rfl, (marks_written hnames hcontext required).congr ?_, fun hr hk hi =>
      written_untyped hr hk hi required⟩
    rw [and_iff_right rfl]
  | succ level ih =>
    obtain ⟨below, hbelow, hitem⟩ := itemAt_succ.mp h
    have hcontext' : ∀ c ∈ itemContext context, Unmarked c := by
      intro c hc
      obtain ⟨outer, houter, rfl⟩ := Option.map_eq_some_iff.mp hc
      exact unmarked_append.mpr ⟨hcontext outer houter, unmarked_items 1⟩
    obtain ⟨text, htext, hmarks, huntyped⟩ := ih hitem
      (fun name hname => hnames name (names_subset_of_item? hbelow hname)) hcontext' true
    refine ⟨text, ?_, hmarks.congr (or_congr_left ?_), huntyped⟩
    · rw [ofSchemaIn_of_item? context hbelow, written_ofName, marked_listOf, ← written_true, htext]
      rfl
    · exact iff_of_false (fun h => nomatch h.1) (fun h => nomatch h.2)

end TypeRef

namespace Record

open TypeRef hiding ofSchema

/-! ## 4. Records of a run -/

section run

variable {schema : Schema} {declared : Path → Declaration}

theorem unmarked_of_answers {name claimed : String} (h : Answers name claimed)
    (hname : Unmarked name) : Unmarked claimed := by
  rcases h with rfl | ⟨k, rfl⟩
  · exact hname
  · exact hname.withNumber k

theorem unmarked_present? {text : String} (h : Unmarked text) :
    ∀ c ∈ present? (some text), Unmarked c := fun c hc => by
  cases present?_eq_some hc
  exact h

theorem unmarked_targetName {record key : String} (depth : Nat) {r : Schema}
    (hr : r.isRecord = true) (hitem : r.item? = none) (hrecord : Unmarked record)
    (hkey : Unmarked key) (hnames : AllUnmarked r) : Unmarked (targetName record key depth r) := by
  have hnothing : ¬IsNothing r := by
    rintro ⟨_, hk⟩
    rw [(isRecord_iff.mp hr).2.1] at hk
    cases hk
  exact unmarked_name hitem hnothing hnames (unmarked_present?
    (unmarked_append.mpr ⟨hrecord.compose hkey 0, unmarked_items depth⟩))

/-- Every record has a name without a question mark: a record gets it from its title, or from the
    record around it and its key. -/
theorem unmarked_declared (hdeclared : ∀ path ∈ schema.paths, EmittedAt declared schema path)
    (hroot : Unmarked (declared []).name) (hnames : AllUnmarked schema) {path : Path}
    (hpath : schema.Leads path) : Unmarked (declared path).name := by
  induction path using List.reverseRecOn with
  | nil => exact hroot
  | append_singleton path step ih =>
    obtain ⟨hlead, s, hp, hs⟩ := leads_append_singleton.mp hpath
    have hunder := names_target_subset hlead
    obtain ⟨hkey, hproperty⟩ := names_property_subset hp
    obtain ⟨_, hcore, hr⟩ := record?_eq_some hs
    have ha := (hdeclared path (mem_paths.mpr hlead)).answers hpath
    refine unmarked_of_answers ha (unmarked_targetName step.depth hr ?_ (ih hlead)
      (hnames _ (hunder hkey)) fun name hname => hnames name (hunder (hproperty ?_)))
    · rw [hcore]
      exact core_item? s
    · rw [hcore] at hname
      exact names_core_subset s hname

/-- A field has the type of its property, in which the record under it may have a new title. -/
theorem exists_marks_of_makes {record key : String} {required : List String}
    {under : Step → Declaration} {position : Nat} {s item : Schema} {f : Field} {level : Nat}
    (hm : Makes record required under position key s f)
    (hunder : ∀ depth r, s.record? = some (depth, r) →
      Unmarked (under ⟨position, key, depth, r⟩).name)
    (hrecord : Unmarked record) (hkey : Unmarked key) (hnames : AllUnmarked s)
    (h : s.itemAt level = some item) :
    ∃ text, f.type.render = listsOf level text ∧
      MarkedAt (required.contains key) level item text := by
  have hcontext := unmarked_present? (hrecord.compose hkey 0)
  cases hm with
  | plain name hs => exact exists_marks_itemAt h hnames hcontext _
  | record name hs hclaimed hanswer =>
    rename_i claimed depth r
    split
    · exact exists_marks_itemAt h hnames hcontext _
    · obtain ⟨item', hitem', hsame⟩ := itemAt_retitle h claimed depth
      have hnames' : AllUnmarked (s.retitle claimed depth) := fun name hname => by
        rcases mem_names_retitle hname with rfl | hname
        · exact hclaimed ▸ hunder depth r hs
        · exact hnames name hname
      obtain ⟨text, htext, hmarked⟩ := exists_marks_itemAt hitem' hnames' hcontext _
      exact ⟨text, htext, hmarked.of_sameButTitle hsame⟩

/-- Every field of a run is that of a property. -/
theorem exists_isFieldOf (hdeclared : ∀ path ∈ schema.paths, EmittedAt declared schema path)
    {record : Declaration} (hrecord : record ∈ schema.paths.map declared) {f : Field}
    (hf : f ∈ record.fields) :
    ∃ path position key s,
      IsFieldOf schema (schema.paths.map declared) path record position key s f := by
  obtain ⟨path, hpath, rfl⟩ := List.mem_map.mp hrecord
  obtain ⟨position, hf⟩ := List.mem_iff_getElem?.mp hf
  obtain ⟨key, s, hp⟩ := (hdeclared path hpath).fields.exists_property hf
  exact ⟨path, position, key, s, mem_occurrences.mpr ⟨hpath, rfl⟩, hp, hf⟩

end run

/-- **Every field of a run, and every item in it, bears a mark where one is needed, and only
    there.** Some lists down in the type of a field as it is written stands the type of the items
    there. If they may be nothing, or if it is the field itself and its key is not required, it is
    none of the types that need a mark and have none. If not, it has no mark at its end. This is so
    where neither the name of the root nor any title, key or reference has a question mark. -/
theorem fields_marked {schema : Schema} {root word : String} {declarations : List Declaration}
    (h : (declarationsOfSchema schema root word).result = .ok declarations)
    (hroot : Unmarked root) (hnames : ∀ name ∈ schema.names, Unmarked name) :
    (∀ record ∈ declarations, ∀ f ∈ record.fields, ∃ path position key s,
      IsFieldOf schema declarations path record position key s f) ∧
    ∀ (path : Path) (record : Declaration) (position : Nat) (key : String) (s : Schema) (f : Field),
      IsFieldOf schema declarations path record position key s f →
        ∀ (level : Nat) (item : Schema), s.itemAt level = some item →
          ∃ text, f.type.render = listsOf level text ∧
            MarkedAt ((path.target schema).keywords.required.contains key) level item text := by
  obtain ⟨declared, rfl, hname, hdeclared, _⟩ := emitted_of_ok h
  refine ⟨fun record hrecord f hf => exists_isFieldOf hdeclared hrecord hf,
    fun path record position key s f hfield level item hitem => ?_⟩
  obtain ⟨hpath, rfl⟩ := mem_occurrences.mp hfield.occurs
  have hlead := mem_paths.mp hpath
  obtain ⟨hkey, hproperty⟩ := names_property_subset hfield.property
  have hbelow := names_target_subset hlead
  have hunmarked {q : Path} (hq : schema.Leads q) : Unmarked (declared q).name :=
    unmarked_declared hdeclared (hname ▸ hroot) hnames hq
  exact exists_marks_of_makes ((hdeclared path hpath).fields.makes hfield.property hfield.field)
    (fun depth r hr => hunmarked (leads_append_singleton.mpr ⟨hlead, s, hfield.property, hr⟩))
    (hunmarked hlead) (hnames key (hbelow hkey))
    (fun name hname => hnames name (hbelow (hproperty hname))) hitem

/-- Some values in a list. -/
def listed (s : Schema) : Schema := .node { Keywords.none with kind := .array } (some s) []

/-- A number that may be nothing. -/
def optionalCount : Schema :=
  .node { Keywords.none with kind := .integer, nullable := true } none []

/-- A survey with counts in lists of lists, and with a record that is named like identifiers are. -/
def survey : Schema :=
  .node { Keywords.none with kind := .object, required := ["counts"] } none
    [("counts", listed (listed optionalCount)), ("place", titled "guid")]

/-- Its declaration. -/
def surveyRecord : Declaration :=
  ⟨"Survey", none,
    [⟨"Counts", "counts", ⟨"IReadOnlyList<IReadOnlyList<int?>>", false⟩, none, true⟩,
      ⟨"Place", "place", ⟨"Guid", true⟩, none, false⟩]⟩

theorem run_survey : (declarationsOfSchema survey "Survey" "error").result =
    .ok [surveyRecord, ⟨"Guid", none, []⟩] := by
  decide

theorem fields_marked_survey :
    (∃ text, "IReadOnlyList<IReadOnlyList<int?>>" = listsOf 2 text ∧ text ∉ valueTypes) ∧
      Text.endsWith "?" "IReadOnlyList<IReadOnlyList<int?>>" = false ∧
      "Guid?" ∉ valueTypes := by
  obtain ⟨_, hmarked⟩ := fields_marked run_survey (by decide +kernel) (by decide)
  have hcounts : IsFieldOf survey [surveyRecord, ⟨"Guid", none, []⟩] [] surveyRecord 0 "counts"
      (listed (listed optionalCount))
      ⟨"Counts", "counts", ⟨"IReadOnlyList<IReadOnlyList<int?>>", false⟩, none, true⟩ :=
    ⟨List.mem_cons_self, rfl, rfl⟩
  have hplace : IsFieldOf survey [surveyRecord, ⟨"Guid", none, []⟩] [] surveyRecord 1 "place"
      (titled "guid") ⟨"Place", "place", ⟨"Guid", true⟩, none, false⟩ :=
    ⟨List.mem_cons_self, rfl, rfl⟩
  refine ⟨?_, ?_, ?_⟩
  · obtain ⟨text, htext, hitem, _⟩ := hmarked _ _ _ _ _ _ hcounts 2 optionalCount rfl
    exact ⟨text, htext, hitem.admitted (Or.inr (Or.inl rfl))⟩
  · obtain ⟨text, htext, hitem, _⟩ := hmarked _ _ _ _ _ _ hcounts 0 _ rfl
    cases htext
    refine hitem.unmarked ?_
    decide
  · obtain ⟨text, htext, hitem, _⟩ := hmarked _ _ _ _ _ _ hplace 0 _ rfl
    cases htext
    exact hitem.admitted (Or.inl ⟨rfl, by decide⟩)

end Record

end SchemaRecords

import SchemaRecords.Proofs.Innermost
import SchemaRecords.Proofs.Record.Emitted

/-!
# Which declarations the types of fields denote

No name of a type of its own is kept from the records, so the type of a field can have the name of
a declaration that its property has nothing to do with.

* `name_fieldType_answered` -- the type of a field is spelled around the name that the record under
  its property got, unless nothing names that record;
* `builtin_name` -- the records that have the name of a type of its own;
* `Denotes`, `denotes_of_innermost_eq` -- all ways in which the innermost name of a field is that of
  a declaration of the same run;
* `builtin_types_captured` -- each of those ways in which the declaration is another one than the
  property leads to is taken by some run.
-/

namespace SchemaRecords.Record

open Name Schema
open TypeRef hiding ofSchema

/-! ## 1. Names without words -/

/-- Nothing names a record: neither the record around it, nor its key, nor a title. -/
structure Nameless (record key : String) (r : Schema) : Prop where
  record : record = ""
  key : pascal key = ""
  title : r.title? = none

theorem compose_eq_empty {record key : String} :
    compose record key 0 = "" ↔ record = "" ∧ pascal key = "" := by
  rw [compose_zero]
  exact String.append_eq_empty_iff

/-- **The name that a property asks for is a cased text**, or that of a dictionary where nothing
    names the record. -/
theorem targetName_cases (record key : String) (depth : Nat) {r : Schema}
    (hr : r.isRecord = true) :
    (∃ s, targetName record key depth r = pascal s) ∨
      Nameless record key r ∧ targetName record key depth r = dictionary := by
  rw [targetName, TypeRef.ofSchema]
  by_cases hc : compose record key 0 ++ Name.items depth = ""
  · cases ht : r.title? with
    | some title =>
      exact Or.inl ⟨title, name_of_title hr ht _⟩
    | none =>
      obtain ⟨hrecord, hkey⟩ := compose_eq_empty.mp (String.append_eq_empty_iff.mp hc).1
      rw [hc]
      exact Or.inr ⟨⟨hrecord, hkey, ht⟩, name_of_title?_none hr ht⟩
  · rw [present?_of_ne_empty hc]
    exact Or.inl ⟨_, name_of_isRecord hr _⟩

/-- The name of a record in its place is the name that the property asks for, unless nothing names
    it. -/
theorem name_core_eq_targetName {record key : String} {s : Schema}
    (hr : s.core.isRecord = true) (hn : ¬Nameless record key s.core) :
    (ofSchemaIn (coreContext (present? (some (compose record key 0))) s.depth) s.core).name =
      targetName record key s.depth s.core := by
  rw [targetName, TypeRef.ofSchema]
  cases ht : s.core.title? with
  | some title => rw [name_of_title hr ht, name_of_title hr ht]
  | none =>
    have hc : compose record key 0 ≠ "" := fun e =>
      hn ⟨(compose_eq_empty.mp e).1, (compose_eq_empty.mp e).2, ht⟩
    rw [present?_of_ne_empty hc, present?_of_ne_empty (append_ne_empty hc _)]
    rfl

theorem withNumber_ne_empty (name : String) (k : Nat) : withNumber name k ≠ "" := fun e =>
  (cased_toString k).ne_empty (String.append_eq_empty_iff.mp e).2

/-- Casing leaves every answer to a cased text as it is. -/
theorem pascal_of_answers {s claimed : String} (h : Answers (pascal s) claimed) :
    pascal claimed = claimed := by
  rcases pascal_cases s with hs | hs
  · rcases h with rfl | ⟨k, rfl⟩
    · exact hs.pascal_eq
    · exact (hs.withNumber k).pascal_eq
  · rw [hs] at h
    rcases h with rfl | ⟨k, rfl⟩
    · rfl
    · rw [withNumber, String.empty_append]
      exact (cased_toString k).pascal_eq

/-- **Where a property leads to a record that something names, the type of its field is spelled
    around the name that the record got.** -/
theorem name_fieldType_answered {record key claimed : String} {s r : Schema} {depth : Nat}
    (hs : s.record? = some (depth, r)) (hn : ¬Nameless record key r)
    (ha : Answers (targetName record key depth r) claimed) :
    (fieldType (compose record key 0)
      (if claimed == targetName record key depth r then none else some (depth, claimed)) s).name =
        spelling depth r.keywords.nullable claimed := by
  obtain ⟨rfl, rfl, hr⟩ := record?_eq_some hs
  by_cases e : claimed = targetName record key s.depth s.core
  · rw [if_pos (beq_iff_eq.mpr e), fieldType, TypeRef.ofSchema, name_ofSchemaIn,
      name_core_eq_targetName hr hn, e]
  · have hne : claimed ≠ "" := by
      obtain ⟨k, rfl⟩ := ha.resolve_left e
      exact withNumber_ne_empty _ k
    have hcased : pascal claimed = claimed := by
      rcases targetName_cases record key s.depth hr with ⟨x, hx⟩ | ⟨h, _⟩
      · exact pascal_of_answers (hx ▸ ha)
      · exact absurd h hn
    have hnullable : (s.core.retitle claimed 0).keywords.nullable = s.core.keywords.nullable := by
      obtain ⟨k, items, properties⟩ := s.core
      rfl
    rw [if_neg (by simpa using e), fieldType, TypeRef.ofSchema, name_ofSchemaIn, depth_retitle,
      core_retitle, hnullable, name_retitle hr _ hne, hcased]

/-! ## 2. Names that are built in -/

/-- A record that has the name of a type of its own is the root, or has the name of a format, or
    nothing names it. -/
theorem builtin_name {declared : Path → Declaration} {schema : Schema}
    (hdeclared : ∀ path ∈ schema.paths, EmittedAt declared schema path) {path : Path} {step : Step}
    (hpath : path ++ [step] ∈ schema.paths)
    (hname : (declared (path ++ [step])).name ∈ builtinNames) :
    (declared (path ++ [step])).name ∈ formatNames ∨
      Nameless (declared path).name step.key step.record ∧
        (declared (path ++ [step])).name = dictionary := by
  have hl := mem_paths.mp hpath
  obtain ⟨hlead, s, _, hs⟩ := leads_append_singleton.mp hl
  obtain ⟨_, _, hr⟩ := record?_eq_some hs
  have ha := (hdeclared path (mem_paths.mpr hlead)).answers hl
  rcases targetName_cases (declared path).name step.key step.depth hr with ⟨x, hx⟩ | ⟨hn, hx⟩
  · exact Or.inl (mem_formatNames_of_pascal _ hname (pascal_of_answers (hx ▸ ha)))
  · refine Or.inr ⟨hn, ?_⟩
    rcases hx ▸ ha with e | ⟨k, e⟩
    · exact e
    · refine eq_dictionary_of_prefix _ hname ⟨(toString k).toList, ?_⟩
      rw [e, withNumber, String.toList_append]

/-! ## 3. Fields and the declarations they denote -/

/-- The records of a schema, each with the declaration that was emitted for it. -/
def occurrences (schema : Schema) (declarations : List Declaration) : List (Path × Declaration) :=
  schema.paths.zip declarations

/-- The field of a property: at the position of the property in the record at a path, and in the
    declaration of that record. -/
structure IsFieldOf (schema : Schema) (declarations : List Declaration) (path : Path)
    (record : Declaration) (position : Nat) (key : String) (s : Schema) (f : Field) : Prop where
  occurs : (path, record) ∈ occurrences schema declarations
  property : (path.target schema).properties[position]? = some (key, s)
  field : record.fields[position]? = some f

/-- The declaration is the one of the record that a property leads to. -/
def IsUnder (path : Path) (position : Nat) (key : String) (s : Schema) (q : Path) : Prop :=
  ∃ depth r, s.record? = some (depth, r) ∧ q = path ++ [⟨position, key, depth, r⟩]

/-- A type denotes no other declaration than that of the record which the property leads to, if it
    is not the type of a reference. -/
def CapturesNothing (schema : Schema) (declarations : List Declaration) : Prop :=
  ∀ (path : Path) (record : Declaration) (position : Nat) (key : String) (s : Schema) (f : Field),
    IsFieldOf schema declarations path record position key s f →
      ∀ (q : Path) (d : Declaration), (q, d) ∈ occurrences schema declarations →
        innermost f.type.name = d.name →
          s.core.reference?.isSome = true ∨ IsUnder path position key s q

/-- **How the type of a field comes to denote a declaration.** -/
inductive Denotes (schema : Schema) (declarations : List Declaration) (path : Path)
    (record : Declaration) (position : Nat) (key : String) (s : Schema) (q : Path)
    (d : Declaration) : Prop
  /-- It is the type of a reference. -/
  | reference (ref : String) (h : s.core.reference? = some ref)
  /-- The property leads to the record of the declaration. -/
  | under (h : IsUnder path position key s q)
  /-- The declaration has the name of a format, and the property is a text with that format. -/
  | format (h : TypeRef.IsFormatOf d.name s.core)
  /-- The root was given the name of a type of its own. -/
  | root (hs : s.record? = none) (hr : s.core.reference? = none) (hq : q = [])
      (hname : d.name ∈ builtinNames)
  /-- The property leads to a record whose own name reads as a list or as marked. -/
  | spelled (own : Path) (e : Declaration) (h : IsUnder path position key s own)
      (he : (own, e) ∈ occurrences schema declarations) (hname : innermost e.name ≠ e.name)
  /-- The property leads to a record that nothing names. -/
  | nameless (depth : Nat) (r : Schema) (hs : s.record? = some (depth, r))
      (hn : Nameless record.name key r)
  /-- Nothing names the record of the declaration. -/
  | dictionary (around : Path) (e : Declaration) (step : Step) (hq : q = around ++ [step])
      (he : (around, e) ∈ occurrences schema declarations)
      (hn : Nameless e.name step.key step.record) (hname : d.name = TypeRef.dictionary)

theorem mem_occurrences {schema : Schema} {declared : Path → Declaration} {path : Path}
    {d : Declaration} :
    (path, d) ∈ occurrences schema (schema.paths.map declared) ↔
      path ∈ schema.paths ∧ declared path = d := by
  have e : occurrences schema (schema.paths.map declared) =
      schema.paths.map fun path => (path, declared path) := by
    rw [occurrences, ← List.zip_map', List.map_id']
  rw [e, List.mem_map]
  constructor
  · rintro ⟨_, hpath, h⟩
    cases h
    exact ⟨hpath, rfl⟩
  · rintro ⟨hpath, rfl⟩
    exact ⟨path, hpath, rfl⟩

/-- The path to the record that a property leads to. -/
theorem mem_paths_under {schema : Schema} {path : Path}
    (hpath : path ∈ schema.paths) {position depth : Nat} {key : String} {s r : Schema}
    (hp : (path.target schema).properties[position]? = some (key, s))
    (hs : s.record? = some (depth, r)) : path ++ [⟨position, key, depth, r⟩] ∈ schema.paths :=
  mem_paths.mpr (leads_append_singleton.mpr ⟨mem_paths.mp hpath, s, hp, hs⟩)

section run

variable {schema : Schema} {declared : Path → Declaration}

/-- The type of a property that leads to no record denotes a declaration that has the name of a
    type of its own. -/
theorem denotes_plain (hdeclared : ∀ path ∈ schema.paths, EmittedAt declared schema path)
    {path q : Path} {position : Nat} {key name : String} {s : Schema}
    {required : Bool} (hs : s.record? = none) (hq : q ∈ schema.paths)
    (h : innermost (fieldOf name key required
      (fieldType (compose (declared path).name key 0) none s) s).type.name = (declared q).name) :
    Denotes schema (schema.paths.map declared) path (declared path) position key s q
      (declared q) := by
  cases hr : s.core.reference? with
  | some ref => exact .reference ref hr
  | none =>
    obtain ⟨e, hfixed⟩ := name_ofSchemaIn_plain hs hr
      (present? (some (compose (declared path).name key 0)))
    rw [name_type_fieldOf, fieldType, TypeRef.ofSchema, e, innermost_spelling] at h
    have hname : (declared q).name ∈ builtinNames := h ▸ innermost_fixed _ hfixed
    rcases List.eq_nil_or_concat' q with rfl | ⟨around, step, rfl⟩
    · exact .root hs hr rfl hname
    · rcases builtin_name hdeclared hq hname with hformat | ⟨hn, hd⟩
      · refine .format (h ▸ isFormatOf_of_mem (core_item? s) (record?_eq_none.mp hs) hr ?_)
        rw [h]
        exact hformat
      · have ha : around ∈ schema.paths :=
          mem_paths.mpr (leads_append_singleton.mp (mem_paths.mp hq)).1
        exact .dictionary around _ step rfl (mem_occurrences.mpr ⟨ha, rfl⟩) hn hd

/-- The type of a property that leads to a record denotes the declaration of that record, or the
    name of the record is not read off its type. -/
theorem denotes_record (hdistinct : ((schema.paths.map declared).map (·.name)).Nodup)
    {path q : Path} {position depth : Nat} {key name claimed : String} {s r : Schema}
    {required : Bool} (hpath : path ∈ schema.paths)
    (hp : (path.target schema).properties[position]? = some (key, s))
    (hs : s.record? = some (depth, r))
    (hclaimed : (declared (path ++ [⟨position, key, depth, r⟩])).name = claimed)
    (ha : Answers (targetName (declared path).name key depth r) claimed) (hq : q ∈ schema.paths)
    (h : innermost (fieldOf name key required
      (fieldType (compose (declared path).name key 0)
        (if claimed == targetName (declared path).name key depth r then none
          else some (depth, claimed)) s) s).type.name = (declared q).name) :
    Denotes schema (schema.paths.map declared) path (declared path) position key s q
      (declared q) := by
  have hunder := mem_paths_under hpath hp hs
  by_cases hn : Nameless (declared path).name key r
  · exact .nameless depth r hs hn
  · rw [name_type_fieldOf, name_fieldType_answered hs hn ha, innermost_spelling] at h
    by_cases hi : innermost claimed = claimed
    · refine .under ⟨depth, r, hs, ?_⟩
      rw [List.map_map] at hdistinct
      refine List.inj_on_of_nodup_map hdistinct hq hunder ?_
      exact h.symm.trans (hi.trans hclaimed.symm)
    · exact .spelled _ _ ⟨depth, r, hs, rfl⟩ (mem_occurrences.mpr ⟨hunder, rfl⟩) (hclaimed ▸ hi)

end run

/-- **Every way in which the type of a field denotes a declaration of the same run.** -/
theorem denotes_of_innermost_eq {schema : Schema} {root word : String}
    {declarations : List Declaration}
    (h : (declarationsOfSchema schema root word).result = .ok declarations) :
    (∀ record ∈ declarations, ∀ f ∈ record.fields, ∃ path position key s,
      IsFieldOf schema declarations path record position key s f) ∧
    ∀ (path : Path) (record : Declaration) (position : Nat) (key : String) (s : Schema) (f : Field),
      IsFieldOf schema declarations path record position key s f →
        ∀ (q : Path) (d : Declaration), (q, d) ∈ occurrences schema declarations →
          innermost f.type.name = d.name →
            Denotes schema declarations path record position key s q d := by
  obtain ⟨declared, rfl, _, hdeclared, hdistinct⟩ := emitted_of_ok h
  refine ⟨fun record hrecord f hf => ?_, fun path record position key s f hfield q d hd e => ?_⟩
  · obtain ⟨path, hpath, rfl⟩ := List.mem_map.mp hrecord
    obtain ⟨position, hf⟩ := List.mem_iff_getElem?.mp hf
    obtain ⟨key, s, hp⟩ := (hdeclared path hpath).fields.exists_property hf
    exact ⟨path, position, key, s, mem_occurrences.mpr ⟨hpath, rfl⟩, hp, hf⟩
  · obtain ⟨hpath, rfl⟩ := mem_occurrences.mp hfield.occurs
    obtain ⟨hq, rfl⟩ := mem_occurrences.mp hd
    have hm := (hdeclared path hpath).fields.makes hfield.property hfield.field
    cases hm with
    | plain name hs => exact denotes_plain hdeclared hs hq e
    | record name hs hclaimed hanswer =>
      exact denotes_record hdistinct hpath hfield.property hs hclaimed hanswer hq e

/-- A text that is an identifier. -/
def identifier : Schema :=
  .node { Keywords.none with kind := .string, format := some "uuid" } none []

/-- An object with a title and nothing else. -/
def titled (title : String) : Schema :=
  .node { Keywords.none with kind := .object, title := some title } none []

/-- An object with some properties and no title. -/
def untitled (properties : List (String × Schema)) : Schema :=
  .node { Keywords.none with kind := .object } none properties

/-- A badge with an identifier, and an owner with the title that the type of identifiers has. -/
def badge : Schema := untitled [("id", identifier), ("owner", titled "guid")]

/-- Its declaration. -/
def badgeRecord : Declaration :=
  ⟨"Badge", none,
    [⟨"Id", "id", ⟨"Guid", true⟩, none, false⟩, ⟨"Owner", "owner", ⟨"Guid", true⟩, none, false⟩]⟩

theorem run_badge : (declarationsOfSchema badge "Badge" "error").result =
    .ok [badgeRecord, ⟨"Guid", none, []⟩] := by
  decide

theorem titled_properties (title : String) : (titled title).properties = [] := rfl

theorem titled_guid : (titled "guid").record? = some (0, titled "guid") := rfl

theorem occurrences_badge (d e : Declaration) :
    occurrences badge [d, e] = [([], d), ([⟨1, "owner", 0, titled "guid"⟩], e)] := by
  have hb : badge.properties = [("id", identifier), ("owner", titled "guid")] := rfl
  rw [occurrences, paths, hb, pathsFrom_plain rfl, pathsFrom_record titled_guid, paths,
    titled_properties, pathsFrom_nil, pathsFrom_nil]
  rfl

theorem isFieldOf_badge :
    IsFieldOf badge [badgeRecord, ⟨"Guid", none, []⟩] [] badgeRecord 0 "id" identifier
      ⟨"Id", "id", ⟨"Guid", true⟩, none, false⟩ where
  occurs := occurrences_badge _ _ ▸ List.mem_cons_self
  property := rfl
  field := rfl

theorem denotes_of_innermost_eq_badge :
    (declarationsOfSchema badge "Badge" "error").result =
        .ok [badgeRecord, ⟨"Guid", none, []⟩] ∧
      Denotes badge [badgeRecord, ⟨"Guid", none, []⟩] [] badgeRecord 0 "id" identifier
        [⟨1, "owner", 0, titled "guid"⟩] ⟨"Guid", none, []⟩ := by
  refine ⟨run_badge, ?_⟩
  refine (denotes_of_innermost_eq run_badge).2 _ _ _ _ _ _ isFieldOf_badge _ _ ?_
    (by decide +kernel)
  exact occurrences_badge _ _ ▸ List.mem_cons_of_mem _ List.mem_cons_self

/-! ## 4. Declarations that are denoted by mistake -/

/-- A run that answers, in which some field has the type of another record than its own. -/
def Captures (schema : Schema) (root word : String) : Prop :=
  ∃ declarations, (declarationsOfSchema schema root word).result = .ok declarations ∧
    ¬CapturesNothing schema declarations

theorem captures_of {schema : Schema} {root word : String} {declarations : List Declaration}
    (h : (declarationsOfSchema schema root word).result = .ok declarations) {path q : Path}
    {record d : Declaration} {position : Nat} {key : String} {s : Schema} {f : Field}
    (hf : IsFieldOf schema declarations path record position key s f)
    (hd : (q, d) ∈ occurrences schema declarations) (hname : innermost f.type.name = d.name)
    (hr : s.core.reference? = none) (hu : ¬IsUnder path position key s q) :
    Captures schema root word := by
  refine ⟨declarations, h, fun hnothing => ?_⟩
  rcases hnothing path record position key s f hf q d hd hname with href | hunder
  · rw [hr] at href
    cases href
  · exact hu hunder

/-- A text with a format has the type that a record is named after. -/
theorem captures_format : Captures badge "Badge" "error" := by
  refine captures_of run_badge isFieldOf_badge
    (occurrences_badge _ _ ▸ List.mem_cons_of_mem _ List.mem_cons_self) (by decide +kernel) rfl ?_
  rintro ⟨_, _, hs, _⟩
  cases hs

/-- A text. -/
def plainText : Schema := .node { Keywords.none with kind := .string } none []

/-- A note with a text. -/
def note : Schema := untitled [("text", plainText)]

/-- Its declaration, under the name of the type of texts. -/
def noteRecord : Declaration :=
  ⟨"string", none, [⟨"Text", "text", ⟨"string", true⟩, none, false⟩]⟩

/-- A text has the type that the root is named after. -/
theorem captures_root : Captures note "string" "error" := by
  have h : (declarationsOfSchema note "string" "error").result = .ok [noteRecord] := by
    decide
  have ho : occurrences note [noteRecord] = [([], noteRecord)] := by
    have hn : note.properties = [("text", plainText)] := rfl
    rw [occurrences, paths, hn, pathsFrom_plain rfl, pathsFrom_nil]
    rfl
  have hf : IsFieldOf note [noteRecord] [] noteRecord 0 "text" plainText
      ⟨"Text", "text", ⟨"string", true⟩, none, false⟩ := ⟨ho ▸ List.mem_cons_self, rfl, rfl⟩
  refine captures_of h hf (ho ▸ List.mem_cons_self) (by decide +kernel) rfl ?_
  rintro ⟨_, _, hs, _⟩
  cases hs

/-- A post with two records, the first of them named as a list of the second. -/
def post : Schema := untitled [("tags", titled "IReadOnlyList<Tag>"), ("tag", titled "Tag")]

/-- Its declaration. -/
def postRecord : Declaration :=
  ⟨"Post", none,
    [⟨"Tags", "tags", ⟨"IReadOnlyList<Tag>", true⟩, none, false⟩,
      ⟨"Tag", "tag", ⟨"Tag", true⟩, none, false⟩]⟩

/-- A record has a name that reads as a list of another one. -/
theorem captures_spelled : Captures post "Post" "error" := by
  have h : (declarationsOfSchema post "Post" "error").result =
      .ok [postRecord, ⟨"IReadOnlyList<Tag>", none, []⟩, ⟨"Tag", none, []⟩] := by
    decide +kernel
  have ho (d e : Declaration) : occurrences post [postRecord, d, e] =
      [([], postRecord), ([⟨0, "tags", 0, titled "IReadOnlyList<Tag>"⟩], d),
        ([⟨1, "tag", 0, titled "Tag"⟩], e)] := by
    have hp : post.properties = [("tags", titled "IReadOnlyList<Tag>"), ("tag", titled "Tag")] :=
      rfl
    have hl : (titled "IReadOnlyList<Tag>").record? = some (0, titled "IReadOnlyList<Tag>") := rfl
    have ht : (titled "Tag").record? = some (0, titled "Tag") := rfl
    rw [occurrences, paths, hp, pathsFrom_record hl, pathsFrom_record ht, paths, paths,
      titled_properties, titled_properties, pathsFrom_nil, pathsFrom_nil]
    rfl
  have hf : IsFieldOf post [postRecord, ⟨"IReadOnlyList<Tag>", none, []⟩, ⟨"Tag", none, []⟩] []
      postRecord 0 "tags" (titled "IReadOnlyList<Tag>")
      ⟨"Tags", "tags", ⟨"IReadOnlyList<Tag>", true⟩, none, false⟩ :=
    ⟨ho _ _ ▸ List.mem_cons_self, rfl, rfl⟩
  refine captures_of h hf
    (ho _ _ ▸ List.mem_cons_of_mem _ (List.mem_cons_of_mem _ List.mem_cons_self))
    (by decide +kernel) rfl ?_
  rintro ⟨_, _, _, hq⟩
  cases hq

/-- An object with two keys that have no words, the second of them that of a note. -/
def blank (s : Schema) : Schema := untitled [("_", s), ("-", note)]

/-- Its declaration under a name that is empty, where the type at the first key is given. -/
def blankRecord (type : String) : Declaration :=
  ⟨"", none,
    [⟨"2", "_", ⟨type, true⟩, none, false⟩,
      ⟨"3", "-", ⟨dictionary, true⟩, none, false⟩]⟩

/-- The declaration of the note, which nothing names. -/
def dictionaryRecord : Declaration :=
  ⟨dictionary, none, [⟨"Text", "text", ⟨"string", true⟩, none, false⟩]⟩

/-- An object of which nothing is known has the type that the note is named after. -/
theorem captures_dictionary : Captures (blank (untitled [])) "" "suffix" := by
  have h : (declarationsOfSchema (blank (untitled [])) "" "suffix").result =
      .ok [blankRecord dictionary, dictionaryRecord] := by
    decide
  have ho (d e : Declaration) : occurrences (blank (untitled [])) [d, e] =
      [([], d), ([⟨1, "-", 0, note⟩], e)] := by
    have hb : (blank (untitled [])).properties = [("_", untitled []), ("-", note)] := rfl
    have hr : note.record? = some (0, note) := rfl
    have hn : note.properties = [("text", plainText)] := rfl
    rw [occurrences, paths, hb, pathsFrom_plain rfl, pathsFrom_record hr, paths, hn,
      pathsFrom_plain rfl, pathsFrom_nil, pathsFrom_nil]
    rfl
  have hf : IsFieldOf (blank (untitled [])) [blankRecord dictionary, dictionaryRecord] []
      (blankRecord dictionary) 0 "_" (untitled []) ⟨"2", "_", ⟨dictionary, true⟩, none, false⟩ :=
    ⟨ho _ _ ▸ List.mem_cons_self, rfl, rfl⟩
  refine captures_of h hf (ho _ _ ▸ List.mem_cons_of_mem _ List.mem_cons_self)
    (by decide +kernel) rfl ?_
  rintro ⟨_, _, hs, _⟩
  cases hs

/-- Notes that nothing names. -/
def notes : Schema := .node { Keywords.none with kind := .array } (some note) []

/-- The declaration of a note among them, by which no type is named. -/
def itemRecord : Declaration :=
  ⟨"Item", none, [⟨"Text", "text", ⟨"string", true⟩, none, false⟩]⟩

/-- Notes that nothing names have the type that the single note is named after. -/
theorem captures_nameless : Captures (blank notes) "" "suffix" := by
  have h : (declarationsOfSchema (blank notes) "" "suffix").result =
      .ok [blankRecord (listOf dictionary), itemRecord, dictionaryRecord] := by
    decide
  have ho (d e e' : Declaration) : occurrences (blank notes) [d, e, e'] =
      [([], d), ([⟨0, "_", 1, note⟩], e), ([⟨1, "-", 0, note⟩], e')] := by
    have hb : (blank notes).properties = [("_", notes), ("-", note)] := rfl
    have hs : notes.record? = some (1, note) := rfl
    have hr : note.record? = some (0, note) := rfl
    have hn : note.properties = [("text", plainText)] := rfl
    rw [occurrences, paths, hb, pathsFrom_record hs, pathsFrom_record hr, paths, hn,
      pathsFrom_plain rfl, pathsFrom_nil, pathsFrom_nil]
    rfl
  have hf : IsFieldOf (blank notes)
      [blankRecord (listOf dictionary), itemRecord, dictionaryRecord] []
      (blankRecord (listOf dictionary)) 0 "_" notes
      ⟨"2", "_", ⟨listOf dictionary, true⟩, none, false⟩ :=
    ⟨ho _ _ _ ▸ List.mem_cons_self, rfl, rfl⟩
  refine captures_of h hf
    (ho _ _ _ ▸ List.mem_cons_of_mem _ (List.mem_cons_of_mem _ List.mem_cons_self))
    (by decide +kernel) rfl ?_
  rintro ⟨_, _, _, hq⟩
  cases hq

/-- **Types of fields are those of records that they do not stand for**: by a format, by the name of
    the root, by a name that reads as a list, by that of a dictionary and where nothing names the
    record. -/
theorem builtin_types_captured :
    Captures badge "Badge" "error" ∧ Captures note "string" "error" ∧
      Captures post "Post" "error" ∧ Captures (blank (untitled [])) "" "suffix" ∧
      Captures (blank notes) "" "suffix" :=
  ⟨captures_format, captures_root, captures_spelled, captures_dictionary, captures_nameless⟩

end SchemaRecords.Record

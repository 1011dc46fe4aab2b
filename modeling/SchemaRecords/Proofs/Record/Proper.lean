import SchemaRecords.Proofs.Nullable
import SchemaRecords.Proofs.Record.Admitted
import SchemaRecords.Proofs.Record.Requested

/-!
# Names that are proper

A name of a record or of a field is no identifier if nothing is left of the text that it is made of.
The record is then named by nothing, or like the dictionary that its type is without a name.

* `Proper`, `ProperNames` -- a name that is not empty and has neither the bracket of collections nor
  a separator; declarations all of whose names are proper;
* `NamesWorded` -- a schema in which the keys and titles that name records and fields have words;
* `bare_field` -- names of fields have no bracket and no separator in any case;
* `names_proper_iff` -- **the names of a run are proper exactly if those of its schema have words**.
-/

namespace SchemaRecords.Record

open Name Schema TypeRef

/-! ## 1. Proper names -/

/-- A name with neither the bracket of collections nor a separator. -/
structure Bare (name : String) : Prop where
  lacks : Lacks '<' name
  joined : ∀ c ∈ name.toList, isSeparator c = false

/-- A name that is not empty, and has neither the bracket of collections nor a separator. -/
structure Proper (name : String) : Prop extends Bare name where
  ne_empty : name ≠ ""

/-- **Declarations all of whose names are proper**: those of records, of which none is spelled like
    a collection, those of fields, and the innermost ones of the types of fields, as far as that
    they are not empty. -/
structure ProperNames (declarations : List Declaration) : Prop where
  records : ∀ d ∈ declarations, Proper d.name
  collections : ∀ d ∈ declarations, ¬IsCollection d.name
  fields : ∀ d ∈ declarations, ∀ f ∈ d.fields, Proper f.name
  types : ∀ d ∈ declarations, ∀ f ∈ d.fields, underLists f.type.name.toList ≠ []

/-- **A schema whose names have words**: the keys of its records, and the titles of those under
    another. -/
structure NamesWorded (schema : Schema) : Prop where
  keys : ∀ path ∈ schema.paths, ∀ p ∈ (path.target schema).properties, hasWord p.1 = true
  titles : ∀ (path : Path) (step : Step), path ++ [step] ∈ schema.paths →
    ∀ title ∈ step.record.title?, hasWord title = true

section name

variable {name claimed s : String}

theorem bare_pascal (h : Lacks '<' s) : Bare (pascal s) :=
  ⟨h.pascal foreign_bracket, fun _ hc => not_isSeparator_of_mem_pascal hc⟩

/-- A number is bare. -/
theorem Bare.withNumber (h : Bare name) (k : Nat) : Bare (withNumber name k) where
  lacks := h.lacks.withNumber foreign_bracket k
  joined := by
    intro c hc
    rw [Name.withNumber, String.toList_append] at hc
    rcases List.mem_append.mp hc with hc | hc
    · exact h.joined c hc
    · exact not_isSeparator_of_isDigit (isDigit_of_mem_toString hc)

/-- **A cased name is proper** where it has no bracket. -/
theorem proper_of_cased (h : Cased name) (hlacks : Lacks '<' name) : Proper name := by
  obtain ⟨_, _, _, _, hjoined⟩ := h.shape
  exact ⟨⟨hlacks, hjoined⟩, h.ne_empty⟩

/-- Without a bracket it is not spelled like a collection. -/
theorem not_isCollection (h : Lacks '<' name) : ¬IsCollection name := by
  rintro (rfl | ⟨element, rfl⟩)
  · revert h
    decide
  · refine h ?_
    rw [toList_listOf]
    exact List.mem_append_left _ (by decide)

/-- A name without a bracket stands under no list. -/
theorem underLists_of_lacks (h : Lacks '<' name) : underLists name.toList = name.toList := by
  have hnone : element? name.toList = none := by
    refine Option.eq_none_iff_forall_ne_some.mpr fun element hsome => h ?_
    rw [element?_eq_some.mp hsome]
    exact List.mem_append_left _ (by decide)
  rw [underLists]
  split
  · rename_i hsome
    rw [hnone] at hsome
    cases hsome
  · rfl

/-- The innermost names of the fixed types are there. -/
theorem underLists_fixed : ∀ name ∈ fixedNames, ∀ nullable : Bool,
    underLists name.toList ≠ [] ∧ underLists (marked nullable name).toList ≠ [] := by
  decide +kernel

/-- **A type spelled around a name has an innermost name**, where that is one of the fixed types or
    is not empty and without a bracket. -/
theorem underLists_spelling {depth : Nat} {nullable : Bool}
    (h : name ∈ fixedNames ∨ name ≠ "" ∧ Lacks '<' name) :
    underLists (spelling depth nullable name).toList ≠ [] := by
  rw [spelling, underLists_listsOf]
  rcases h with hfixed | ⟨hne, hlacks⟩
  · split
    · exact (underLists_fixed name hfixed nullable).1
    · exact (underLists_fixed name hfixed nullable).2
  · have hmarked : Lacks '<' (marked nullable name) := by
      unfold marked
      split
      · exact lacks_append.mpr ⟨hlacks, by decide⟩
      · exact hlacks
    have hmarked_ne : marked nullable name ≠ "" := by
      unfold marked
      split
      · exact append_ne_empty hne "?"
      · exact hne
    split
    · rw [underLists_of_lacks hlacks]
      exact fun e => hne (String.toList_eq_nil_iff.mp e)
    · rw [underLists_of_lacks hmarked]
      exact fun e => hmarked_ne (String.toList_eq_nil_iff.mp e)

theorem ofReference_ne_empty (ref : String) : ofReference ref ≠ "" := by
  unfold ofReference
  dsimp only
  split
  · decide
  · rename_i hne
    exact fun e => hne (beq_iff_eq.mpr e)

end name

/-! ## 2. Names that are answered -/

section run

variable {schema : Schema} {declared : Path → Declaration}

theorem bare_of_answers {name claimed : String} (h : Answers name claimed) (hname : Bare name) :
    Bare claimed := by
  rcases h with rfl | ⟨k, rfl⟩
  · exact hname
  · exact hname.withNumber k

theorem cased_of_answers {name claimed : String} (h : Answers name claimed) (hname : Cased name) :
    Cased claimed := by
  rcases h with rfl | ⟨k, rfl⟩
  · exact hname
  · exact hname.withNumber k

/-- The name of a field answers that of a property. -/
theorem FieldsClaimed.answers {policy : Policy} {s : Schema} {d : Declaration}
    (h : FieldsClaimed policy s d) {f : Field} (hf : f ∈ d.fields) :
    ∃ p ∈ s.properties, Answers (pascal p.1) f.name := by
  obtain ⟨own, hclaims⟩ := h
  obtain ⟨asked, hasked, hanswer⟩ := hclaims.answers_of_mem (List.mem_map_of_mem hf)
  obtain ⟨p, hp, rfl⟩ := List.mem_map.mp hasked
  exact ⟨p, hp, hanswer⟩

/-- The name of every property is in use, for a field or for the record itself. -/
theorem FieldsClaimed.mem_names {policy : Policy} {s : Schema} {d : Declaration}
    (h : FieldsClaimed policy s d) {p : String × Schema} (hp : p ∈ s.properties) :
    pascal p.1 ∈ d.names := by
  obtain ⟨own, hclaims⟩ := h
  have hused := hclaims.mem_taken (List.mem_map_of_mem hp)
  rw [hclaims.taken_eq, List.mem_append, List.mem_reverse] at hused
  rcases hused with hfield | hrecord
  · exact List.mem_cons_of_mem _ hfield
  · rw [List.mem_singleton.mp hrecord]
    exact List.mem_cons_self

/-- **Names of fields have no bracket and no separator**, where the keys have no bracket. -/
theorem bare_field {policy : Policy} {s : Schema} {d : Declaration}
    (h : FieldsClaimed policy s d) (hkeys : ∀ p ∈ s.properties, Lacks '<' p.1) {f : Field}
    (hf : f ∈ d.fields) : Bare f.name := by
  obtain ⟨p, hp, hanswer⟩ := h.answers hf
  exact bare_of_answers hanswer (bare_pascal (hkeys p hp))

/-- **Every record has a cased name without a bracket**, where the root has one, the titles have
    words and no name in the schema has a bracket. -/
theorem cased_declared (hdeclared : ∀ path ∈ schema.paths, EmittedAt declared schema path)
    (hroot : Cased (declared []).name ∧ Lacks '<' (declared []).name)
    (hnames : ∀ name ∈ schema.names, Lacks '<' name)
    (htitles : ∀ (path : Path) (step : Step), path ++ [step] ∈ schema.paths →
      ∀ title ∈ step.record.title?, hasWord title = true) {path : Path}
    (hpath : path ∈ schema.paths) :
    Cased (declared path).name ∧ Lacks '<' (declared path).name := by
  induction path using List.reverseRecOn with
  | nil => exact hroot
  | append_singleton path step ih =>
    have hlead := mem_paths.mp hpath
    obtain ⟨hbefore, s, hp, hs⟩ := leads_append_singleton.mp hlead
    obtain ⟨_, _, hr⟩ := record?_eq_some hs
    obtain ⟨hcased, hlacks⟩ := ih (mem_paths.mpr hbefore)
    have hkey : Lacks '<' step.key :=
      hnames _ (names_target_subset hbefore (names_property_subset hp).1)
    have hown : step.record.names ⊆ schema.names := by
      have hsubset := names_target_subset hlead
      rwa [Path.target_append_singleton] at hsubset
    have hanswer := (hdeclared path (mem_paths.mpr hbefore)).answers hlead
    rw [targetName_eq hcased.ne_empty step.key step.depth hr] at hanswer
    -- what is asked for is the title, or composed from the name of the record around it
    have hasked : Cased (pascal (step.record.title?.getD
        (compose (declared path).name step.key step.depth))) ∧
        Lacks '<' (pascal (step.record.title?.getD
          (compose (declared path).name step.key step.depth))) := by
      cases ht : step.record.title? with
      | some title =>
        have hmem := hown (mem_names_of_title (present?_eq_some ht))
        exact ⟨cased_pascal (htitles path step hpath title ht),
          (hnames title hmem).pascal foreign_bracket⟩
      | none =>
        exact ⟨cased_pascal (hasWord_append (hasWord_append hcased.hasWord)),
          (hlacks.compose hkey foreign_bracket step.depth).pascal foreign_bracket⟩
    refine ⟨cased_of_answers hanswer hasked.1, ?_⟩
    rcases hanswer with e | ⟨k, e⟩
    · exact e ▸ hasked.2
    · exact e ▸ hasked.2.withNumber foreign_bracket k

/-- **The type of a field has an innermost name**, where the records have such names and references
    have no bracket. -/
theorem underLists_of_makes {record key : String} {required : List String}
    {under : Step → Declaration} {position : Nat} {s : Schema} {f : Field}
    (hm : Makes record required under position key s f) (hrecord : record ≠ "")
    (hunder : ∀ depth r, s.record? = some (depth, r) →
      Cased (under ⟨position, key, depth, r⟩).name ∧
        Lacks '<' (under ⟨position, key, depth, r⟩).name)
    (hreference : ∀ ref, s.core.reference? = some ref → Lacks '<' ref) :
    underLists f.type.name.toList ≠ [] := by
  cases hm with
  | plain name hs =>
    obtain ⟨core, hspelled, hcore⟩ := name_fieldType_plain key hrecord hs
    rw [name_type_fieldOf, hspelled]
    refine underLists_spelling ?_
    cases href : s.core.reference? with
    | some ref =>
      rw [href] at hcore
      rw [hcore]
      exact Or.inr ⟨ofReference_ne_empty ref, (hreference ref href).ofReference foreign_bracket⟩
    | none =>
      rw [href] at hcore
      exact Or.inl hcore
  | record name hs hclaimed hanswer =>
    obtain ⟨hcased, hlacks⟩ := hunder _ _ hs
    rw [hclaimed] at hcased hlacks
    rw [name_type_fieldOf, name_fieldType_record hrecord hs hcased]
    exact underLists_spelling (Or.inr ⟨hcased.ne_empty, hlacks⟩)

end run

end SchemaRecords.Record

namespace SchemaRecords

open Name Schema TypeRef Record

variable {schema : Schema} {root word : String} {declarations : List Declaration}

/-! ## 3. The names of a run -/

/-- Where all names are proper, the keys have words: of one without, a field or its record has no
    name. -/
theorem keys_worded_of_proper {policy : Policy} {declared : Path → Declaration}
    (hfields : ∀ path ∈ schema.paths,
      FieldsClaimed policy (path.target schema) (declared path))
    (h : ProperNames (schema.paths.map declared)) :
    ∀ path ∈ schema.paths, ∀ p ∈ (path.target schema).properties, hasWord p.1 = true := by
  intro path hpath p hp
  have hd : declared path ∈ schema.paths.map declared := List.mem_map_of_mem hpath
  by_contra hword
  have hmem := (hfields path hpath).mem_names hp
  rw [pascal_eq_empty (Bool.eq_false_iff.mpr hword)] at hmem
  rcases List.mem_cons.mp hmem with hrecord | hfield
  · exact (h.records _ hd).ne_empty hrecord.symm
  · obtain ⟨f, hf, hname⟩ := List.mem_map.mp hfield
    exact (h.fields _ hd f hf).ne_empty hname

/-- And so do the titles of records under another: of one without, some record has no name. -/
theorem titles_worded_of_proper
    (hrun : (declarationsOfSchema schema root word).result = .ok declarations)
    (h : ProperNames declarations) (path : Path) (step : Step)
    (hpath : path ++ [step] ∈ schema.paths) :
    ∀ title ∈ step.record.title?, hasWord title = true := by
  obtain ⟨_, declared, scope, _, rfl, hclaims⟩ := requested_of_schema hrun
  intro title ht
  obtain ⟨hbefore, s, _, hs⟩ := leads_append_singleton.mp (mem_paths.mp hpath)
  obtain ⟨_, _, hr⟩ := record?_eq_some hs
  have hrecord : (declared path).name ≠ "" :=
    (h.records _ (List.mem_map_of_mem (mem_paths.mpr hbefore))).ne_empty
  by_contra hword
  have hempty : requestAt root declared (path ++ [step]) = "" := by
    rw [requestAt_append_singleton, targetName_eq hrecord step.key step.depth hr, ht,
      Option.getD_some, pascal_eq_empty (Bool.eq_false_iff.mpr hword)]
  have hused := hclaims.mem_taken (List.mem_map_of_mem hpath)
  rw [hempty, hclaims.taken_eq, List.mem_append, List.mem_reverse] at hused
  rcases hused with hname | hnone
  · obtain ⟨d, hd, hname⟩ := List.mem_map.mp hname
    exact (h.records d hd).ne_empty hname
  · exact absurd hnone List.not_mem_nil

/-- The keys of all records are names of the schema. -/
theorem lacks_keys (hnames : ∀ name ∈ schema.names, Lacks '<' name) :
    ∀ path ∈ schema.paths, ∀ p ∈ (path.target schema).properties, Lacks '<' p.1 := by
  intro path hpath p hp
  obtain ⟨position, hp⟩ := List.mem_iff_getElem?.mp hp
  exact hnames _ (names_target_subset (mem_paths.mp hpath) (names_property_subset hp).1)

/-- **Where the names of the schema have words, all names are proper.** -/
theorem proper_of_worded {policy : Policy} {declared : Path → Declaration}
    (hdeclared : ∀ path ∈ schema.paths, EmittedAt declared schema path)
    (hfields : ∀ path ∈ schema.paths,
      FieldsClaimed policy (path.target schema) (declared path))
    (hroot : Cased (declared []).name ∧ Lacks '<' (declared []).name)
    (hnames : ∀ name ∈ schema.names, Lacks '<' name) (hworded : NamesWorded schema) :
    ProperNames (schema.paths.map declared) := by
  have hcased : ∀ path ∈ schema.paths,
      Cased (declared path).name ∧ Lacks '<' (declared path).name := fun path hpath =>
    cased_declared hdeclared hroot hnames hworded.titles hpath
  constructor
  · exact List.forall_mem_map.mpr fun path hpath =>
      proper_of_cased (hcased path hpath).1 (hcased path hpath).2
  · exact List.forall_mem_map.mpr fun path hpath => not_isCollection (hcased path hpath).2
  · refine List.forall_mem_map.mpr fun path hpath f hf => ?_
    have hbare := bare_field (hfields path hpath) (lacks_keys hnames path hpath) hf
    obtain ⟨p, hp, hanswer⟩ := (hfields path hpath).answers hf
    have hname := cased_of_answers hanswer (cased_pascal (hworded.keys path hpath p hp))
    exact ⟨hbare, hname.ne_empty⟩
  · refine List.forall_mem_map.mpr fun path hpath f hf => ?_
    obtain ⟨position, hf⟩ := List.mem_iff_getElem?.mp hf
    have hlead := mem_paths.mp hpath
    obtain ⟨key, s, hp⟩ := (hdeclared path hpath).fields.exists_property hf
    refine underLists_of_makes ((hdeclared path hpath).fields.makes hp hf)
      (hcased path hpath).1.ne_empty (fun depth r hr => ?_) fun ref href => ?_
    · exact hcased _ (mem_paths.mpr (leads_append_singleton.mpr ⟨hlead, s, hp, hr⟩))
    · have hcore := names_core_subset s (mem_names_of_ref (present?_eq_some href))
      exact hnames ref (names_target_subset hlead ((names_property_subset hp).2 hcore))

/-- **The names of a run are proper exactly if those of its schema have words**, where the root has
    a cased name, and neither that nor any title, key or reference has the bracket of collections.
    The names of fields have no bracket and no separator in any case. -/
theorem names_proper_iff (hroot : Cased root) (hlacks : Lacks '<' root)
    (hnames : ∀ name ∈ schema.names, Lacks '<' name)
    (h : (declarationsOfSchema schema root word).result = .ok declarations) :
    (∀ d ∈ declarations, ∀ f ∈ d.fields, Bare f.name) ∧
      (ProperNames declarations ↔ NamesWorded schema) := by
  obtain ⟨policy, hfields⟩ := fieldsClaimed_of_schema h
  obtain ⟨declared, rfl, hname, hdeclared, _⟩ := emitted_of_ok h
  rw [List.forall₂_map_right_iff, List.forall₂_same] at hfields
  have hbare : ∀ path ∈ schema.paths, ∀ f ∈ (declared path).fields, Bare f.name :=
    fun path hpath f hf => bare_field (hfields path hpath) (lacks_keys hnames path hpath) hf
  refine ⟨List.forall_mem_map.mpr hbare, fun hproper => ?_, fun hworded => ?_⟩
  · exact ⟨keys_worded_of_proper hfields hproper, titles_worded_of_proper h hproper⟩
  · exact proper_of_worded hdeclared hfields (hname ▸ ⟨hroot, hlacks⟩) hnames hworded

theorem namesWorded_journey : NamesWorded journey where
  keys := by
    rw [paths_journey]
    decide
  titles := by
    intro path step hpath title ht
    have htitles : step.record = titled "place" ∨ step.record = titled "note" := by
      have htarget := Path.target_append_singleton journey path step
      rw [← htarget]
      rw [paths_journey] at hpath
      simp only [List.mem_cons, List.append_eq_nil_iff, List.cons_ne_nil, and_false, false_or,
        List.not_mem_nil, or_false] at hpath
      rcases hpath with hpath | hpath | hpath
      · exact Or.inl (by rw [hpath]; rfl)
      · exact Or.inl (by rw [hpath]; rfl)
      · exact Or.inr (by rw [hpath]; rfl)
    rcases htitles with hrecord | hrecord
    · rw [hrecord] at ht
      cases ht
      decide
    · rw [hrecord] at ht
      cases ht
      decide

theorem names_proper_iff_journey :
    Cased "Journey" ∧ Lacks '<' "Journey" ∧ (∀ name ∈ journey.names, Lacks '<' name) ∧
      (declarationsOfSchema journey "Journey" "suffix").result = .ok journeyDeclarations ∧
      ProperNames journeyDeclarations := by
  have hroot : Cased "Journey" := ⟨by decide, by decide⟩
  have hlacks : Lacks '<' "Journey" := by decide
  have hnames : ∀ name ∈ journey.names, Lacks '<' name := by decide
  have h : (declarationsOfSchema journey "Journey" "suffix").result = .ok journeyDeclarations := by
    decide
  obtain ⟨_, hproper⟩ := names_proper_iff hroot hlacks hnames h
  exact ⟨hroot, hlacks, hnames, h, hproper.mpr namesWorded_journey⟩

/-- A person with a home that has a title without a word. -/
def person : Schema :=
  untitled [("home",
    .node { Keywords.none with kind := .object, title := some "_" } none [("city", plainText)])]

/-- Its declarations: the home has no name, and nor has the type of the field for it. -/
def personDeclarations : List Declaration :=
  [⟨"Person", none, [⟨"Home", "home", ⟨"", true⟩, none, false⟩]⟩,
    ⟨"", none, [⟨"City", "city", ⟨"string", true⟩, none, false⟩]⟩]

/-- **A title without a word leaves a record without a name.** -/
theorem person_not_proper :
    Cased "Person" ∧ (∀ name ∈ "Person" :: person.names, Lacks '<' name) ∧
      (declarationsOfSchema person "Person" "error").result = .ok personDeclarations ∧
      ¬ProperNames personDeclarations := by
  refine ⟨⟨by decide, by decide⟩, by decide, by decide, fun h => ?_⟩
  exact (h.records _ (List.mem_cons_of_mem _ List.mem_cons_self)).ne_empty rfl

end SchemaRecords

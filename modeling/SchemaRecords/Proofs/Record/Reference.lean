import SchemaRecords.Proofs.Record.Distinct
import SchemaRecords.Proofs.Record.Naming
import SchemaRecords.Proofs.Schema.Path

/-!
# What the types of fields refer to

The name of a declaration and the name in the type of the field that leads to it are found in
different ways: the first is claimed, the second is read off the property, and off the property
with a new title where the claim was answered with another name. They agree.

* `name_fieldType_record`, `name_fieldType_plain` -- the name in the type of a field, in closed
  form, where the property leads to a record and where it does not;
* `Refers` -- what one field refers to, and `Wired`: the declarations of a run and the paths of its
  schema are in a correspondence under which every field refers to what its property leads to;
* `references_wired` -- every run that answers is so wired, under either policy.
-/

namespace SchemaRecords.Record

open Name Schema
open TypeRef hiding ofSchema

/-! ## 1. The name in the type of a field -/

@[simp] theorem name_type_fieldOf (name key : String) (required : Bool) (type : TypeRef)
    (s : Schema) : (fieldOf name key required type s).type.name = type.name := by
  cases required <;> rfl

/-- A type is spelled around the name of its core, which has the context of its arrays. -/
theorem name_ofSchema {context : String} (h : context ≠ "") (s : Schema) :
    (TypeRef.ofSchema s (some context)).name =
      spelling s.depth s.core.keywords.nullable
        (TypeRef.ofSchema s.core (some (context ++ Name.items s.depth))).name := by
  rw [TypeRef.ofSchema, TypeRef.ofSchema, present?_of_ne_empty h,
    present?_of_ne_empty (append_ne_empty h _)]
  exact name_ofSchemaIn (some context) s

theorem name_ofSchema_retitle {context claimed : String} (h : context ≠ "") {s : Schema}
    (hr : s.core.isRecord = true) (hc : Cased claimed) :
    (TypeRef.ofSchema (s.retitle claimed s.depth) (some context)).name =
      spelling s.depth s.core.keywords.nullable claimed := by
  have hnullable : (s.core.retitle claimed 0).keywords.nullable = s.core.keywords.nullable := by
    obtain ⟨k, items, properties⟩ := s.core
    rfl
  rw [name_ofSchema h, depth_retitle, core_retitle, hnullable, TypeRef.ofSchema,
    name_retitle hr _ hc.ne_empty, hc.pascal_eq]

/-- **Where a property leads to a record, the type of its field is spelled around the name that
    the record got**, whether that is the name it asked for or another one. -/
theorem name_fieldType_record {record key claimed : String} (hrecord : record ≠ "") {s r : Schema}
    {depth : Nat} (hs : s.record? = some (depth, r)) (hc : Cased claimed) :
    (fieldType (compose record key 0)
      (if claimed == targetName record key depth r then none else some (depth, claimed)) s).name =
        spelling depth r.keywords.nullable claimed := by
  obtain ⟨rfl, rfl, hr⟩ := record?_eq_some hs
  have hne : compose record key 0 ≠ "" := append_ne_empty (append_ne_empty hrecord _) _
  by_cases e : claimed = targetName record key s.depth s.core
  · rw [if_pos (beq_iff_eq.mpr e), fieldType, name_ofSchema hne, e, targetName]
  · rw [if_neg (by simpa using e), fieldType]
    exact name_ofSchema_retitle hne hr hc

/-- Where it does not, the type is spelled around a name that hangs on the property alone. -/
theorem name_fieldType_plain {record : String} (key : String) (hrecord : record ≠ "") {s : Schema}
    (hs : s.record? = none) :
    ∃ name, (fieldType (compose record key 0) none s).name =
        spelling s.depth s.core.keywords.nullable name ∧
      match s.core.reference? with
      | some ref => name = ofReference ref
      | none => name ∈ fixedNames := by
  have hne : compose record key 0 ≠ "" := append_ne_empty (append_ne_empty hrecord _) _
  have hcontext := append_ne_empty hne (Name.items s.depth)
  obtain ⟨e, h⟩ := name_of_not_isRecord (core_item? s) (record?_eq_none.mp hs)
    (compose record key 0 ++ Name.items s.depth)
  refine ⟨(ofSchemaIn none s.core).name, ?_, h⟩
  rw [fieldType, name_ofSchema hne, TypeRef.ofSchema, present?_of_ne_empty hcontext, e]

/-! ## 2. Fields and the records they refer to -/

/-- **What the field of a property refers to**, where the records under its own stand at their
    paths from there: the record at the property, by the name that its declaration has; else the
    type that a reference names, or one of the fixed types. -/
structure Refers (declared : Path → Declaration) (position : Nat) (key : String) (s : Schema)
    (f : Field) : Prop where
  key_eq : f.key = key
  record : ∀ depth r, s.record? = some (depth, r) →
    f.type.name =
      spelling depth r.keywords.nullable (declared [⟨position, key, depth, r⟩]).name
  reference : ∀ ref, s.core.reference? = some ref →
    f.type.name = spelling s.depth s.core.keywords.nullable (ofReference ref)
  fixed : s.record? = none → s.core.reference? = none →
    ∃ name ∈ fixedNames, f.type.name = spelling s.depth s.core.keywords.nullable name

/-- The fields of a record, one for each property, counted from a position on. -/
def FieldsRefer (declared : Path → Declaration) (position : Nat) (ps : List (String × Schema))
    (fields : List Field) : Prop :=
  List.Forall₂ (fun p f => Refers declared p.2 p.1.1 p.1.2 f) (ps.zipIdx position) fields

/-- The fields of the record at the end of a path. -/
def WiredAt (declared : Path → Declaration) (s : Schema) (path : Path) : Prop :=
  FieldsRefer (fun below => declared (path ++ below)) 0 (path.target s).properties
    (declared path).fields

/-- A property without record has nothing to do with the declarations. -/
theorem refers_plain {record key name : String} (hrecord : record ≠ "") {s : Schema}
    (hs : s.record? = none) (required : Bool) (declared : Path → Declaration) (position : Nat) :
    Refers declared position key s
      (fieldOf name key required (fieldType (compose record key 0) none s) s) := by
  obtain ⟨core, e, h⟩ := name_fieldType_plain key hrecord hs
  refine ⟨rfl, fun depth r hr => ?_, fun ref href => ?_, fun _ hnone => ⟨core, ?_, ?_⟩⟩
  · rw [hs] at hr
    cases hr
  · rw [href] at h
    rw [name_type_fieldOf, e, h]
  · rw [hnone] at h
    exact h
  · rw [name_type_fieldOf, e]

theorem refers_record {record key claimed name : String} (hrecord : record ≠ "") {s r : Schema}
    {depth : Nat} (hs : s.record? = some (depth, r)) (hc : Cased claimed) (required : Bool)
    {declared : Path → Declaration} {position : Nat}
    (hd : (declared [⟨position, key, depth, r⟩]).name = claimed) :
    Refers declared position key s
      (fieldOf name key required
        (fieldType (compose record key 0)
          (if claimed == targetName record key depth r then none else some (depth, claimed)) s)
        s) := by
  refine ⟨rfl, fun depth' r' hr => ?_, fun ref href => ?_, fun hnone => ?_⟩
  · rw [hs] at hr
    cases hr
    rw [name_type_fieldOf, name_fieldType_record hrecord hs hc, hd]
  · obtain ⟨_, rfl, hr⟩ := record?_eq_some hs
    have hnone : s.core.reference? = none := (isRecord_iff.mp hr).1
    rw [hnone] at href
    cases href
  · rw [hs] at hnone
    cases hnone

/-- Fields refer to declarations from their position on only. -/
theorem FieldsRefer.congr {declared declared' : Path → Declaration} {position : Nat}
    {ps : List (String × Schema)} {fields : List Field}
    (h : FieldsRefer declared position ps fields)
    (he : ∀ step : Step, position ≤ step.position → declared' [step] = declared [step]) :
    FieldsRefer declared' position ps fields := by
  induction ps generalizing position fields with
  | nil =>
    cases h
    exact List.Forall₂.nil
  | cons p rest ih =>
    cases h with
    | cons hp hrest =>
      refine List.Forall₂.cons ⟨hp.key_eq, fun depth r hr => ?_, hp.reference, hp.fixed⟩ ?_
      · rw [he _ (Nat.le_refl position)]
        exact hp.record depth r hr
      · exact ih hrest fun step hstep => he step (by omega)

/-! ## 3. Declarations at paths -/

/-- The declarations of the paths from a record, where those below it are given. -/
def rooted (d : Declaration) (below : Path → Declaration) : Path → Declaration
  | [] => d
  | step :: path => below (step :: path)

/-- The declarations of the paths from some properties, where those through the property at a
    position are given apart. -/
def grafted (position : Nat) (under rest : Path → Declaration) : Path → Declaration
  | [] => rest []
  | step :: path => if step.position = position then under path else rest (step :: path)

theorem map_rooted (d : Declaration) (below : Path → Declaration) (s : Schema) :
    s.paths.map (rooted d below) = d :: (pathsFrom 0 s.properties).map below := by
  rw [paths, List.map_cons]
  refine congrArg (d :: ·) (List.map_congr_left fun path hpath => ?_)
  obtain ⟨step, tail, rfl, _⟩ := exists_of_mem_pathsFrom hpath
  rfl

theorem wiredAt_rooted {d : Declaration} {below : Path → Declaration} {s : Schema}
    (hf : FieldsRefer below 0 s.properties d.fields)
    (hp : ∀ path ∈ pathsFrom 0 s.properties, WiredAt below s path) :
    ∀ path ∈ s.paths, WiredAt (rooted d below) s path := by
  intro path hpath
  rcases List.mem_cons.mp hpath with rfl | hpath
  · exact FieldsRefer.congr hf fun _ _ => rfl
  · obtain ⟨step, tail, rfl, _⟩ := exists_of_mem_pathsFrom hpath
    exact hp _ hpath

section grafted

variable {position : Nat} (under rest : Path → Declaration)

theorem grafted_under (step : Step) (h : step.position = position) (path : Path) :
    grafted position under rest (step :: path) = under path := if_pos h

theorem grafted_rest (step : Step) (h : position < step.position) (path : Path) :
    grafted position under rest (step :: path) = rest (step :: path) :=
  if_neg (Nat.ne_of_gt h)

variable {key : String} {s r : Schema} {depth : Nat} {ps : List (String × Schema)}

theorem map_grafted (hs : s.record? = some (depth, r)) :
    (pathsFrom position ((key, s) :: ps)).map (grafted position under rest) =
      r.paths.map under ++ (pathsFrom (position + 1) ps).map rest := by
  rw [pathsFrom_record hs, List.map_append, List.map_map]
  have hunder : r.paths.map (grafted position under rest ∘ (⟨position, key, depth, r⟩ :: ·)) =
      r.paths.map under :=
    List.map_congr_left fun path _ => grafted_under under rest _ rfl path
  have hrest : (pathsFrom (position + 1) ps).map (grafted position under rest) =
      (pathsFrom (position + 1) ps).map rest := by
    refine List.map_congr_left fun path hpath => ?_
    obtain ⟨step, tail, rfl, hle⟩ := exists_of_mem_pathsFrom hpath
    exact grafted_rest under rest step hle tail
  rw [hunder, hrest]

/-- What is wired under the first property and behind it is wired together. -/
theorem wiredAt_grafted {schema : Schema} (hs : s.record? = some (depth, r))
    (hu : ∀ path ∈ r.paths, WiredAt under r path)
    (hr : ∀ path ∈ pathsFrom (position + 1) ps, WiredAt rest schema path) :
    ∀ path ∈ pathsFrom position ((key, s) :: ps),
      WiredAt (grafted position under rest) schema path := by
  intro path hpath
  rw [pathsFrom_record hs] at hpath
  rcases List.mem_append.mp hpath with hpath | hpath
  · obtain ⟨tail, htail, rfl⟩ := List.mem_map.mp hpath
    have e := grafted_under under rest ⟨position, key, depth, r⟩ rfl
    unfold WiredAt
    rw [e]
    exact FieldsRefer.congr (hu tail htail) fun step _ => e (tail ++ [step])
  · obtain ⟨step, tail, rfl, hle⟩ := exists_of_mem_pathsFrom hpath
    have e := grafted_rest under rest step hle
    unfold WiredAt
    rw [e]
    exact FieldsRefer.congr (hr _ hpath) fun next _ => e (tail ++ [next])

end grafted

/-! ## 4. One walk -/

/-- **A walk wires the declarations that it emits.** -/
theorem Emits.wired {record : String} {required : List String} {own scope scope' : Scope}
    {ps : List (String × Schema)} {fields : List Field} {nested : List Declaration}
    (h : Emits record required own scope ps fields nested scope')
    (hrecord : hasWord record = true) (hw : Worded ps) (position : Nat) (schema : Schema) :
    ∃ declared : Path → Declaration,
      nested = (pathsFrom position ps).map declared ∧
      FieldsRefer declared position ps fields ∧
      ∀ path ∈ pathsFrom position ps, WiredAt declared schema path := by
  induction h generalizing position schema with
  | nil record required own scope =>
    refine ⟨fun _ => ⟨"", none, []⟩, ?_, List.Forall₂.nil, ?_⟩
    · rw [pathsFrom_nil]
      rfl
    · rw [pathsFrom_nil]
      exact fun _ hpath => nomatch hpath
  | plain hs _ _ ih =>
    obtain ⟨declared, hn, hf, hp⟩ := ih hrecord hw.tail (position + 1) schema
    refine ⟨declared, ?_, List.Forall₂.cons ?_ hf, ?_⟩
    · rw [pathsFrom_plain hs]
      exact hn
    · exact refers_plain (ne_empty_of_hasWord hrecord) hs _ declared position
    · rw [pathsFrom_plain hs]
      exact hp
  | @record record required own own' scope scope₁ scope₂ scope₃ key s rest depth r claimed below
      nested name fields more hs hclaim _ _ _ ihb ih =>
    obtain ⟨_, _, hr⟩ := record?_eq_some hs
    have hcased := cased_of_claim (cased_targetName hrecord key depth hr (hw.record hs)) hclaim
    obtain ⟨under, hnu, hfu, hpu⟩ :=
      ihb hcased.hasWord (worded_properties (hw.record hs)) 0 r
    obtain ⟨others, hn, hf, hp⟩ := ih hrecord hw.tail (position + 1) schema
    -- the record is the root of what is under it, and that is grafted in front of the others
    refine ⟨grafted position (rooted ⟨claimed, r.documentation?, below⟩ under) others, ?_,
      List.Forall₂.cons ?_ ?_, wiredAt_grafted _ _ hs (wiredAt_rooted hfu hpu) hp⟩
    · rw [map_grafted _ _ hs, map_rooted, ← hnu, ← hn]
    · refine refers_record (ne_empty_of_hasWord hrecord) hs hcased _ ?_
      exact congrArg (·.name) (grafted_under _ others ⟨position, key, depth, r⟩ rfl [])
    · exact FieldsRefer.congr hf fun step hle => grafted_rest _ _ step hle []

/-! ## 5. A run -/

/-- **The declarations of a run and the paths of its schema**: in the order of the paths there is
    one declaration for each, what a property of a record leads to is at a path too, and the fields
    of every declaration refer to the declarations that stand there. -/
structure Wired (schema : Schema) (declarations : List Declaration)
    (declared : Path → Declaration) : Prop where
  in_order : declarations = schema.paths.map declared
  complete : ∀ path ∈ schema.paths, ∀ (position : Nat) (key : String) (s : Schema) (depth : Nat)
    (r : Schema), (path.target schema).properties[position]? = some (key, s) →
      s.record? = some (depth, r) → path ++ [⟨position, key, depth, r⟩] ∈ schema.paths
  refer : ∀ path ∈ schema.paths, WiredAt declared schema path

/-- **No type refers to a record that is not declared, or to another than the one it stands for.**
    Where the root and the titles have words, the declarations of a run that answers, the first of
    which has the name of the root, are wired to the paths of the schema; those are the paths that
    lead to a record of it, in the order of their positions. -/
theorem references_wired {schema : Schema} {root word : String} {declarations : List Declaration}
    (hroot : hasWord root = true) (htitles : ∀ title ∈ schema.titles, hasWord title = true)
    (h : (declarationsOfSchema schema root word).result = .ok declarations) :
    ∃ declared : Path → Declaration,
      Wired schema declarations declared ∧ (declared []).name = root ∧
      (∀ path, path ∈ schema.paths ↔ schema.Leads path) ∧
      schema.paths.Pairwise Path.Before := by
  obtain ⟨policy, _, h⟩ := declarationsOfSchema_ok h
  obtain ⟨fields, nested, scope', hw, rfl⟩ := ofSchema_ok h
  obtain ⟨below, hn, hf, hp⟩ := hw.wired hroot (worded_properties htitles) 0 schema
  refine ⟨rooted ⟨root, schema.documentation?, fields⟩ below, ⟨?_, ?_, wiredAt_rooted hf hp⟩, rfl,
    fun path => mem_paths, paths_sorted schema⟩
  · rw [map_rooted, hn]
  · intro path hpath position key s depth r hget hs
    exact mem_paths.mpr (leads_append_singleton.mpr ⟨mem_paths.mp hpath, s, hget, hs⟩)

theorem references_wired_numbered :
    hasWord "Order" = true ∧ (∀ title ∈ orderChain.titles, hasWord title = true) ∧
      (declarationsOfSchema orderChain "Order" "suffix").result = .ok orderChainDeclarations ∧
      ∃ declared, Wired orderChain orderChainDeclarations declared := by
  have hr : hasWord "Order" = true := by decide +kernel
  have ht : ∀ title ∈ orderChain.titles, hasWord title = true := by decide +kernel
  have h : (declarationsOfSchema orderChain "Order" "suffix").result =
      .ok orderChainDeclarations := by decide +kernel
  obtain ⟨declared, hw, _⟩ := references_wired hr ht h
  exact ⟨hr, ht, h, declared, hw⟩

end SchemaRecords.Record

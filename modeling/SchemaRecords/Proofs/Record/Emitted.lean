import SchemaRecords.Proofs.Record.Reference

/-!
# The declaration emitted for each record

What a run makes of every record of its schema, whatever the root, the titles and the keys are.

* `Makes` -- the field that a walk makes of one property; `Emitted`, the declaration that it makes
  of a record;
* `Emits.emitted` -- a walk makes one declaration for each path to a record, in the order of the
  paths, and so does a run that answers (`emitted_of_ok`);
* `EmittedAt.answers` -- the name of a record under another is an answer to the name that the
  property asks for.
-/

namespace SchemaRecords.Record

open Name Schema

/-! ## 1. What a walk makes of a property -/

/-- The names that a claim may be answered with. -/
def Answers (name claimed : String) : Prop :=
  claimed = name ∨ ∃ k, claimed = withNumber name k

theorem answers_of_claim {scope scope' : Scope} {name claimed : String}
    (h : (scope.claim name).result = .ok (claimed, scope')) : Answers name claimed := by
  obtain ⟨_, _, e | ⟨_, hk⟩⟩ := Scope.claim_ok h
  · exact Or.inl e
  · exact Or.inr hk

/-- **The field that a walk makes of a property** of a record with a name and required keys, where
    the declarations one step under that record are given. -/
inductive Makes (record : String) (required : List String) (under : Step → Declaration)
    (position : Nat) (key : String) (s : Schema) : Field → Prop
  | plain (name : String) (hs : s.record? = none) :
      Makes record required under position key s
        (fieldOf name key (required.contains key) (fieldType (compose record key 0) none s) s)
  | record (name : String) {claimed : String} {depth : Nat} {r : Schema}
      (hs : s.record? = some (depth, r))
      (hclaimed : (under ⟨position, key, depth, r⟩).name = claimed)
      (hanswer : Answers (targetName record key depth r) claimed) :
      Makes record required under position key s
        (fieldOf name key (required.contains key)
          (fieldType (compose record key 0)
            (if claimed == targetName record key depth r then none else some (depth, claimed)) s)
          s)

/-- The fields made of some properties, counted from a position on. -/
def MakesAll (record : String) (required : List String) (under : Step → Declaration)
    (position : Nat) (ps : List (String × Schema)) (fields : List Field) : Prop :=
  List.Forall₂ (fun p f => Makes record required under p.2 p.1.1 p.1.2 f) (ps.zipIdx position)
    fields

/-- **The declaration emitted for a record.** -/
structure Emitted (under : Step → Declaration) (s : Schema) (d : Declaration) : Prop where
  documentation : d.documentation = s.documentation?
  fields : MakesAll d.name s.keywords.required under 0 s.properties d.fields

/-- The declaration at the end of a path is the one emitted for the record there. -/
def EmittedAt (declared : Path → Declaration) (schema : Schema) (path : Path) : Prop :=
  Emitted (fun step => declared (path ++ [step])) (path.target schema) (declared path)

/-- Fields hang on the declarations from their position on only. -/
theorem MakesAll.congr {record : String} {required : List String}
    {under under' : Step → Declaration} {position : Nat} {ps : List (String × Schema)}
    {fields : List Field} (h : MakesAll record required under position ps fields)
    (he : ∀ step : Step, position ≤ step.position → under' step = under step) :
    MakesAll record required under' position ps fields := by
  induction ps generalizing position fields with
  | nil =>
    cases h
    exact List.Forall₂.nil
  | cons p rest ih =>
    cases h with
    | cons hp hrest =>
      refine List.Forall₂.cons ?_ (ih hrest fun step hstep => he step (by omega))
      cases hp with
      | plain name hs => exact .plain name hs
      | record name hs hclaimed hanswer =>
        exact .record name hs ((congrArg (·.name) (he _ (Nat.le_refl position))).trans hclaimed)
          hanswer

/-! ## 2. What a walk makes of records -/

theorem emittedAt_rooted {d : Declaration} {below : Path → Declaration} {s : Schema}
    (hd : Emitted (fun step => below [step]) s d)
    (hp : ∀ path ∈ pathsFrom 0 s.properties, EmittedAt below s path) :
    ∀ path ∈ s.paths, EmittedAt (rooted d below) s path := by
  intro path hpath
  rcases List.mem_cons.mp hpath with rfl | hpath
  · exact hd
  · obtain ⟨step, tail, rfl, _⟩ := exists_of_mem_pathsFrom hpath
    exact hp _ hpath

theorem emittedAt_grafted {position : Nat} {under rest : Path → Declaration} {key : String}
    {schema s r : Schema} {depth : Nat} {ps : List (String × Schema)}
    (hs : s.record? = some (depth, r)) (hu : ∀ path ∈ r.paths, EmittedAt under r path)
    (hr : ∀ path ∈ pathsFrom (position + 1) ps, EmittedAt rest schema path) :
    ∀ path ∈ pathsFrom position ((key, s) :: ps),
      EmittedAt (grafted position under rest) schema path := by
  intro path hpath
  rw [pathsFrom_record hs] at hpath
  unfold EmittedAt
  rcases List.mem_append.mp hpath with hpath | hpath
  · obtain ⟨tail, htail, rfl⟩ := List.mem_map.mp hpath
    have e := grafted_under under rest ⟨position, key, depth, r⟩ rfl
    simp only [List.cons_append, e]
    exact hu tail htail
  · obtain ⟨step, tail, rfl, hle⟩ := exists_of_mem_pathsFrom hpath
    have e := grafted_rest under rest step hle
    simp only [List.cons_append, e]
    exact hr _ hpath

/-- **A walk makes one declaration for each path to a record**, in the order of the paths. -/
theorem Emits.emitted {record : String} {required : List String} {own scope scope' : Scope}
    {ps : List (String × Schema)} {fields : List Field} {nested : List Declaration}
    (h : Emits record required own scope ps fields nested scope') (position : Nat)
    (schema : Schema) :
    ∃ declared : Path → Declaration,
      nested = (pathsFrom position ps).map declared ∧
      MakesAll record required (fun step => declared [step]) position ps fields ∧
      ∀ path ∈ pathsFrom position ps, EmittedAt declared schema path := by
  induction h generalizing position schema with
  | nil record required own scope =>
    refine ⟨fun _ => ⟨"", none, []⟩, ?_, List.Forall₂.nil, ?_⟩
    · rw [pathsFrom_nil]
      rfl
    · rw [pathsFrom_nil]
      exact fun _ hpath => nomatch hpath
  | plain hs _ _ ih =>
    obtain ⟨declared, hn, hf, hp⟩ := ih (position + 1) schema
    refine ⟨declared, ?_, List.Forall₂.cons (.plain _ hs) hf, ?_⟩
    · rw [pathsFrom_plain hs]
      exact hn
    · rw [pathsFrom_plain hs]
      exact hp
  | @record record required own own' scope scope₁ scope₂ scope₃ key s rest depth r claimed below
      nested name fields more hs hclaim _ _ _ ihb ih =>
    obtain ⟨under, hnu, hfu, hpu⟩ := ihb 0 r
    obtain ⟨others, hn, hf, hp⟩ := ih (position + 1) schema
    have hd : Emitted (fun step => under [step]) r ⟨claimed, r.documentation?, below⟩ := ⟨rfl, hfu⟩
    refine ⟨grafted position (rooted ⟨claimed, r.documentation?, below⟩ under) others, ?_,
      List.Forall₂.cons ?_ ?_, emittedAt_grafted hs (emittedAt_rooted hd hpu) hp⟩
    · rw [map_grafted _ _ hs, map_rooted, ← hnu, ← hn]
    · refine .record _ hs ?_ (answers_of_claim hclaim)
      exact congrArg (·.name) (grafted_under _ others ⟨position, key, depth, r⟩ rfl [])
    · exact MakesAll.congr hf fun step hle => grafted_rest _ _ step hle []

/-- **A run that answers makes one declaration for each path to a record of its schema**, the
    root's under the given name, no two of them with one name. -/
theorem emitted_of_ok {schema : Schema} {root word : String} {declarations : List Declaration}
    (h : (declarationsOfSchema schema root word).result = .ok declarations) :
    ∃ declared : Path → Declaration,
      declarations = schema.paths.map declared ∧ (declared []).name = root ∧
      (∀ path ∈ schema.paths, EmittedAt declared schema path) ∧
      (declarations.map (·.name)).Nodup := by
  obtain ⟨policy, _, h⟩ := declarationsOfSchema_ok h
  obtain ⟨fields, nested, scope', hw, rfl⟩ := ofSchema_ok h
  obtain ⟨below, hn, hf, hp⟩ := hw.emitted 0 schema
  have hd : Emitted (fun step => below [step]) schema ⟨root, schema.documentation?, fields⟩ :=
    ⟨rfl, hf⟩
  refine ⟨rooted ⟨root, schema.documentation?, fields⟩ below, ?_, rfl, emittedAt_rooted hd hp, ?_⟩
  · rw [map_rooted, hn]
  · have ht := hw.run_nodup (List.nodup_singleton root)
    rw [hw.taken_eq, List.nodup_append_comm] at ht
    have hr : (root :: (nested.map (·.name)).reverse).Nodup := ht
    obtain ⟨hroot, hnested⟩ := List.nodup_cons.mp hr
    exact List.nodup_cons.mpr
      ⟨fun hmem => hroot (List.mem_reverse.mpr hmem), List.nodup_reverse.mp hnested⟩

/-! ## 3. Properties of one record -/

section MakesAll

variable {record : String} {required : List String} {under : Step → Declaration}
  {ps : List (String × Schema)} {fields : List Field} {position : Nat} {key : String} {s : Schema}

/-- Every property has a field at its position. -/
theorem MakesAll.exists_field (h : MakesAll record required under 0 ps fields)
    (hp : ps[position]? = some (key, s)) : ∃ f, fields[position]? = some f := by
  obtain ⟨hi, _⟩ := List.getElem?_eq_some_iff.mp hp
  have hlen := h.length_eq
  rw [List.length_zipIdx] at hlen
  exact ⟨_, List.getElem?_eq_getElem (hlen ▸ hi)⟩

/-- Every field stands at the position of a property. -/
theorem MakesAll.exists_property (h : MakesAll record required under 0 ps fields) {f : Field}
    (hf : fields[position]? = some f) : ∃ key s, ps[position]? = some (key, s) := by
  obtain ⟨hi, _⟩ := List.getElem?_eq_some_iff.mp hf
  have hlen := h.length_eq
  rw [List.length_zipIdx] at hlen
  exact ⟨_, _, List.getElem?_eq_getElem (hlen ▸ hi)⟩

/-- The field there is the one made of it. -/
theorem MakesAll.makes (h : MakesAll record required under 0 ps fields) {f : Field}
    (hp : ps[position]? = some (key, s)) (hf : fields[position]? = some f) :
    Makes record required under position key s f := by
  have hz : (ps.zipIdx 0)[position]? = some ((key, s), position) := by
    rw [List.getElem?_zipIdx, hp, Nat.zero_add]
    rfl
  obtain ⟨hi, ei⟩ := List.getElem?_eq_some_iff.mp hz
  obtain ⟨hj, ej⟩ := List.getElem?_eq_some_iff.mp hf
  have hm := h.get hi hj
  rw [List.get_eq_getElem, List.get_eq_getElem, ei, ej] at hm
  exact hm

end MakesAll

/-- **The name of a record under another answers the name that the property asks for.** -/
theorem EmittedAt.answers {declared : Path → Declaration} {schema : Schema} {path : Path}
    {step : Step} (h : EmittedAt declared schema path) (hl : schema.Leads (path ++ [step])) :
    Answers (targetName (declared path).name step.key step.depth step.record)
      (declared (path ++ [step])).name := by
  obtain ⟨_, s, hp, hs⟩ := leads_append_singleton.mp hl
  obtain ⟨f, hf⟩ := h.fields.exists_field hp
  cases h.fields.makes hp hf with
  | plain name hnone =>
    rw [hs] at hnone
    cases hnone
  | record name hr hclaimed hanswer =>
    rw [hs] at hr
    cases hr
    exact hclaimed ▸ hanswer

end SchemaRecords.Record

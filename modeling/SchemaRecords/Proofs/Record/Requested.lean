import SchemaRecords.Proofs.Name.Numbered
import SchemaRecords.Proofs.Record.Capture

/-!
# The names that a run asks for

Every record asks for its name in the scope of the run: the root for the name it is given, and a
record under another for the one its type has there, which starts from the name that the enclosing
record has got.

* `requestAt` -- the name that the record at a path asks for; `map_requestAt_grafted` puts the
  requests under the first property before those behind it;
* `Emits.requested` -- a walk asks for these names in the order of the paths, and the answers are
  the names of its declarations; `Emits.nested_claimed` is the same for fields;
* `Requested` -- the names asked for in a run over some roots. There are no others that belong to
  the same names of declarations (`Requested.unique`);
* `Numbering` -- how names are answered where they get numbers; `duplicates_numbered` -- **every run
  that numbers names answers them so**.
-/

namespace SchemaRecords.Record

open Name Schema

/-! ## 1. The name that a record asks for -/

/-- The name that the record at a path asks for, where the declarations are given: the root asks for
    the name of the run, a record under another for the name that its type has there. -/
def requestAt (root : String) (declared : Path → Declaration) (path : Path) : String :=
  match path.getLast? with
  | none => root
  | some step => targetName (declared path.dropLast).name step.key step.depth step.record

@[simp] theorem requestAt_nil (root : String) (declared : Path → Declaration) :
    requestAt root declared [] = root := rfl

@[simp] theorem requestAt_append_singleton (root : String) (declared : Path → Declaration)
    (path : Path) (step : Step) :
    requestAt root declared (path ++ [step]) =
      targetName (declared path).name step.key step.depth step.record := by
  simp [requestAt]

section grafted

variable {position : Nat} (root : String) (under rest : Path → Declaration) {step : Step}

/-- Under the first property the names are asked for as from the record there. -/
theorem requestAt_grafted_under (h : step.position = position) {path : Path} (hpath : path ≠ []) :
    requestAt root (grafted position under rest) (step :: path) = requestAt root under path := by
  obtain hnil | ⟨init, last, rfl⟩ := List.eq_nil_or_concat' path
  · exact absurd hnil hpath
  · rw [← List.cons_append, requestAt_append_singleton, grafted_under under rest step h,
      requestAt_append_singleton]

/-- Behind it they are asked for as without it. -/
theorem requestAt_grafted_rest (h : position < step.position) (path : Path) :
    requestAt root (grafted position under rest) (step :: path) =
      requestAt root rest (step :: path) := by
  obtain rfl | ⟨init, last, rfl⟩ := List.eq_nil_or_concat' path
  · rfl
  · rw [← List.cons_append, requestAt_append_singleton, grafted_rest under rest step h,
      requestAt_append_singleton]

/-- **The record at the first property asks first**, for the name that its type has there; then
    those under it ask as from it, and those behind as without it. -/
theorem map_requestAt_grafted {key : String} {s r : Schema} {depth : Nat}
    {ps : List (String × Schema)} (hs : s.record? = some (depth, r)) :
    (pathsFrom position ((key, s) :: ps)).map (requestAt root (grafted position under rest)) =
      targetName (rest []).name key depth r ::
        ((pathsFrom 0 r.properties).map (requestAt root under) ++
          (pathsFrom (position + 1) ps).map (requestAt root rest)) := by
  have hunder : (pathsFrom 0 r.properties).map
      (requestAt root (grafted position under rest) ∘ (⟨position, key, depth, r⟩ :: ·)) =
      (pathsFrom 0 r.properties).map (requestAt root under) := by
    refine List.map_congr_left fun path hpath => ?_
    obtain ⟨step, tail, rfl, _⟩ := exists_of_mem_pathsFrom hpath
    exact requestAt_grafted_under root under rest rfl (List.cons_ne_nil step tail)
  have hrest : (pathsFrom (position + 1) ps).map (requestAt root (grafted position under rest)) =
      (pathsFrom (position + 1) ps).map (requestAt root rest) := by
    refine List.map_congr_left fun path hpath => ?_
    obtain ⟨step, tail, rfl, hle⟩ := exists_of_mem_pathsFrom hpath
    exact requestAt_grafted_rest root under rest hle tail
  rw [pathsFrom_record hs, List.map_append, List.map_map, paths, List.map_cons, hunder, hrest]
  rfl

end grafted

/-! ## 2. One walk -/

/-- **A walk asks for the names of its records in the order of the paths**, and its declarations
    have the names that are answered. -/
theorem Emits.requested {record : String} {required : List String} {own scope scope' : Scope}
    {ps : List (String × Schema)} {fields : List Field} {nested : List Declaration}
    (h : Emits record required own scope ps fields nested scope') (position : Nat) (root : String)
    {d : Declaration} (hd : d.name = record) :
    ∃ declared : Path → Declaration,
      declared [] = d ∧ nested = (pathsFrom position ps).map declared ∧
      Claims scope ((pathsFrom position ps).map (requestAt root declared)) (nested.map (·.name))
        scope' := by
  induction h generalizing position d with
  | nil record required own scope =>
    refine ⟨fun _ => d, rfl, ?_, ?_⟩
    · rw [pathsFrom_nil]
      rfl
    · rw [pathsFrom_nil]
      exact .nil scope
  | plain hs _ _ ih =>
    obtain ⟨declared, hroot, hnested, hclaims⟩ := ih (position + 1) hd
    refine ⟨declared, hroot, ?_, ?_⟩
    · rw [pathsFrom_plain hs]
      exact hnested
    · rw [pathsFrom_plain hs]
      exact hclaims
  | @record record required own own' scope scope₁ scope₂ scope₃ key s rest depth r claimed below
      nested name fields more hs hclaim _ _ _ ihb ih =>
    obtain ⟨under, hunder, hnu, hcu⟩ := ihb 0 (d := ⟨claimed, r.documentation?, below⟩) rfl
    obtain ⟨others, hothers, hno, hco⟩ := ih (position + 1) hd
    have hpaths : r.paths.map under = ⟨claimed, r.documentation?, below⟩ :: nested := by
      rw [paths, List.map_cons, hunder, ← hnu]
    refine ⟨grafted position under others, hothers, ?_, ?_⟩
    · rw [map_grafted _ _ hs, hpaths, ← hno]
    · rw [map_requestAt_grafted root under others hs, hothers, hd, List.map_append, List.map_cons]
      exact (Claims.cons hclaim hcu).append hco

/-- So does a root, which asks for the name it is given first. -/
theorem emitRoot_requested {schema : Schema} {root : String} {scope scope' : Scope}
    {declarations : List Declaration}
    (h : (emitRoot schema root scope).result = .ok (declarations, scope')) :
    ∃ declared : Path → Declaration,
      declarations = schema.paths.map declared ∧
      Claims scope (schema.paths.map (requestAt root declared)) (declarations.map (·.name))
        scope' := by
  obtain ⟨claimed, scope₁, fields, nested, hc, hw, rfl⟩ := emitRoot_ok h
  obtain ⟨declared, hroot, hnested, hclaims⟩ :=
    hw.requested 0 root (d := ⟨claimed, schema.documentation?, fields⟩) rfl
  refine ⟨declared, ?_, ?_⟩
  · rw [paths, List.map_cons, hroot, ← hnested]
  · exact .cons hc hclaims

/-! ## 3. The names of fields -/

/-- The names of the fields of a declaration: those of its properties, in the scope in which the
    name of the declaration itself is in use. -/
def FieldsClaimed (policy : Policy) (s : Schema) (d : Declaration) : Prop :=
  ∃ own, Claims (.new policy (some d.name)) (s.properties.map fun p => pascal p.1)
    (d.fields.map (·.name)) own

section Emits

variable {record : String} {required : List String} {own scope scope' : Scope}
  {ps : List (String × Schema)} {fields : List Field} {nested : List Declaration}

/-- A walk asks for the names of its fields, one property after the other. -/
theorem Emits.fields_claimed (h : Emits record required own scope ps fields nested scope') :
    ∃ own', Claims own (ps.map fun p => pascal p.1) (fields.map (·.name)) own' := by
  induction h with
  | nil record required own scope => exact ⟨own, .nil own⟩
  | plain _ hname _ ih =>
    obtain ⟨own', hrest⟩ := ih
    exact ⟨own', .cons hname hrest⟩
  | record _ _ _ hname _ _ ih =>
    obtain ⟨own', hrest⟩ := ih
    exact ⟨own', .cons hname hrest⟩

/-- **So does every record under it.** -/
theorem Emits.nested_claimed (h : Emits record required own scope ps fields nested scope')
    (position : Nat) (schema : Schema) :
    List.Forall₂ (fun path d => FieldsClaimed scope.policy (path.target schema) d)
      (pathsFrom position ps) nested := by
  induction h generalizing position schema with
  | nil record required own scope =>
    rw [pathsFrom_nil]
    exact .nil
  | plain hs _ _ ih =>
    rw [pathsFrom_plain hs]
    exact ih (position + 1) schema
  | @record record required own own' scope scope₁ scope₂ scope₃ key s rest depth r claimed below
      nested name fields more hs hclaim hbelow _ _ ihb ih =>
    have hunder := ihb 0 r
    have hbehind := ih (position + 1) schema
    rw [hbelow.policy_eq] at hbehind
    obtain ⟨_, rfl, _⟩ := Scope.claim_ok hclaim
    rw [pathsFrom_record hs]
    refine List.rel_append (List.forall₂_map_left_iff.mpr (.cons ?_ ?_)) hbehind
    · exact hbelow.fields_claimed
    · exact hunder

end Emits

/-! ## 4. The names asked for in a run -/

/-- **The names asked for in a run over some roots**, each with its name and its schema, and the
    names of the declarations of that run. -/
inductive Requested : List (String × Schema) → List String → List String → Prop
  | nil : Requested [] [] []
  | cons {root : String} {schema : Schema} {roots : List (String × Schema)}
      {asked names : List String} (declared : Path → Declaration)
      (rest : Requested roots asked names) :
      Requested ((root, schema) :: roots)
        (schema.paths.map (requestAt root declared) ++ asked)
        (schema.paths.map (fun path => (declared path).name) ++ names)

/-- What a path asks for hangs on the names at the paths before it alone. -/
theorem requestAt_congr {schema : Schema} {declared declared' : Path → Declaration}
    (h : ∀ path ∈ schema.paths, (declared path).name = (declared' path).name) (root : String)
    {path : Path} (hpath : path ∈ schema.paths) :
    requestAt root declared path = requestAt root declared' path := by
  obtain rfl | ⟨init, last, rfl⟩ := List.eq_nil_or_concat' path
  · rfl
  · have hinit : init ∈ schema.paths :=
      mem_paths.mpr (leads_append_singleton.mp (mem_paths.mp hpath)).1
    rw [requestAt_append_singleton, requestAt_append_singleton, h init hinit]

/-- **The names of the declarations tell what was asked for.** -/
theorem Requested.unique {roots : List (String × Schema)} {asked asked' names : List String}
    (h : Requested roots asked names) (h' : Requested roots asked' names) : asked = asked' := by
  induction h generalizing asked' with
  | nil =>
    cases h'
    rfl
  | @cons root schema roots asked names declared rest ih =>
    generalize hnames : schema.paths.map (fun path => (declared path).name) ++ names = all at h'
    cases h' with
    | @cons _ _ _ others moreNames declared' rest' =>
      obtain ⟨hsame, rfl⟩ := List.append_inj hnames (by simp)
      have hpaths := List.map_inj_left.mp hsame
      have hrequests : schema.paths.map (requestAt root declared) =
          schema.paths.map (requestAt root declared') :=
        List.map_congr_left fun path hpath => requestAt_congr hpaths root hpath
      rw [hrequests, ih rest']

end SchemaRecords.Record

namespace SchemaRecords

open Name Schema Record

variable {declarations : List Declaration}

/-- A run over a schema asks in the scope of the run. -/
theorem requested_of_schema {schema : Schema} {root word : String}
    (h : (declarationsOfSchema schema root word).result = .ok declarations) :
    ∃ (policy : Policy) (declared : Path → Declaration) (scope : Scope),
      Policy.ofName? word = some policy ∧ declarations = schema.paths.map declared ∧
      Claims (.new policy none) (schema.paths.map (requestAt root declared))
        (declarations.map (·.name)) scope := by
  obtain ⟨policy, hpolicy, h⟩ := declarationsOfSchema_ok h
  unfold ofSchema at h
  obtain ⟨⟨emitted, scope⟩, he, h⟩ := Outcome.result_bind_eq_ok.mp h
  cases h
  obtain ⟨declared, hdeclared, hclaims⟩ := emitRoot_requested he
  exact ⟨policy, declared, scope, hpolicy, hdeclared, hclaims⟩

/-- The fields of all its declarations ask so in their records. -/
theorem fieldsClaimed_of_schema {schema : Schema} {root word : String}
    (h : (declarationsOfSchema schema root word).result = .ok declarations) :
    ∃ policy, List.Forall₂ (fun path d => FieldsClaimed policy (path.target schema) d) schema.paths
      declarations := by
  obtain ⟨policy, _, h⟩ := declarationsOfSchema_ok h
  obtain ⟨fields, nested, scope, hw, rfl⟩ := ofSchema_ok h
  refine ⟨policy, .cons hw.fields_claimed ?_⟩
  exact hw.nested_claimed 0 schema

/-- The roots of tools: each has the name of a request and the schema of the parameters. -/
def RootsOf (tools : List Tool) (roots : List (String × Schema)) : Prop :=
  List.Forall₂ (fun tool root =>
    root.1 = ofRequest tool.name ∧ Schema.ofJson tool.parameters = .ok root.2) tools roots

/-- Tools ask one after the other in the same scope. -/
theorem claims_of_emitTools {tools : List Tool} {scope : Scope}
    (h : (emitTools scope tools).result = .ok declarations) :
    ∃ roots asked scope', RootsOf tools roots ∧
      Requested roots asked (declarations.map (·.name)) ∧
      Claims scope asked (declarations.map (·.name)) scope' := by
  induction tools generalizing scope declarations with
  | nil =>
    cases h
    exact ⟨[], [], scope, .nil, .nil, .nil scope⟩
  | cons tool rest ih =>
    obtain ⟨first, scope₁, more, hfirst, hmore, rfl⟩ := emitTools_cons_ok h
    obtain ⟨roots, asked, scope₂, hroots, hrequested, hclaims⟩ := ih hmore
    obtain ⟨schema, plain, hschema, he, rfl⟩ := emitTool_ok hfirst
    obtain ⟨declared, rfl, hplain⟩ := emitRoot_requested he
    let requests := schema.paths.map (requestAt (ofRequest tool.name) declared)
    refine ⟨(ofRequest tool.name, schema) :: roots, requests ++ asked, scope₂,
      .cons ⟨rfl, hschema⟩ hroots, ?_, ?_⟩
    · rw [List.map_append, map_name_documentRoot, List.map_map]
      exact .cons declared hrequested
    · rw [List.map_append, map_name_documentRoot]
      exact hplain.append hclaims

/-! ## 5. Runs that number names -/

/-- **A run over some roots that numbers names**: what it asks for is claimed in the scope of the
    run, and the names of its declarations are the answers that names get there. -/
structure NumberedRun (roots : List (String × Schema)) (names : List String) : Prop where
  claimed : ∃ asked scope, Requested roots asked names ∧
    Claims (.new .number none) asked names scope
  numbering : ∀ asked, Requested roots asked names → Numbering asked names

theorem numberedRun_of_claims {roots : List (String × Schema)} {asked names : List String}
    {scope : Scope} (hrequested : Requested roots asked names)
    (hclaims : Claims (.new .number none) asked names scope) : NumberedRun roots names where
  claimed := ⟨asked, scope, hrequested, hclaims⟩
  numbering := by
    intro other hother
    rw [hother.unique hrequested]
    exact hclaims.numbering

/-- **Every run that numbers names answers duplicates with their numbers**, in the order of its
    declarations: a run over one schema, and one over tools. -/
theorem duplicates_numbered :
    (∀ (schema : Schema) (root : String) (declarations : List Declaration),
      (declarationsOfSchema schema root "suffix").result = .ok declarations →
        NumberedRun [(root, schema)] (declarations.map (·.name))) ∧
    ∀ (tools : List Tool) (declarations : List Declaration),
      (declarationsOfTools tools "suffix").result = .ok declarations →
        ∃ roots, RootsOf tools roots ∧ NumberedRun roots (declarations.map (·.name)) := by
  have hsuffix : Policy.ofName? "suffix" = some .number := by decide
  refine ⟨fun schema root declarations h => ?_, fun tools declarations h => ?_⟩
  · obtain ⟨policy, declared, scope, hpolicy, rfl, hclaims⟩ := requested_of_schema h
    rw [hsuffix] at hpolicy
    cases hpolicy
    have hrequested := @Requested.cons root schema _ _ _ declared .nil
    rw [List.append_nil, List.append_nil] at hrequested
    rw [List.map_map] at hclaims ⊢
    exact numberedRun_of_claims hrequested hclaims
  · unfold declarationsOfTools policyOf at h
    rw [hsuffix] at h
    obtain ⟨policy, hpolicy, h⟩ := Outcome.result_bind_eq_ok.mp h
    cases hpolicy
    obtain ⟨roots, asked, scope, hroots, hrequested, hclaims⟩ := claims_of_emitTools h
    exact ⟨roots, hroots, numberedRun_of_claims hrequested hclaims⟩

/-- A journey from one place to another, with a note. -/
def journey : Schema :=
  untitled [("start", titled "place"), ("end", titled "place"), ("note", titled "note")]

/-- Its declarations, the second place with a number. -/
def journeyDeclarations : List Declaration :=
  [⟨"Journey", none,
      [⟨"Start", "start", ⟨"Place", true⟩, none, false⟩,
        ⟨"End", "end", ⟨"Place2", true⟩, none, false⟩,
        ⟨"Note", "note", ⟨"Note", true⟩, none, false⟩]⟩,
    ⟨"Place", none, []⟩, ⟨"Place2", none, []⟩, ⟨"Note", none, []⟩]

/-- The paths to its records. -/
theorem paths_journey : journey.paths =
    [[], [⟨0, "start", 0, titled "place"⟩], [⟨1, "end", 0, titled "place"⟩],
      [⟨2, "note", 0, titled "note"⟩]] := by
  have hproperties : journey.properties =
      [("start", titled "place"), ("end", titled "place"), ("note", titled "note")] := rfl
  have hplace : (titled "place").record? = some (0, titled "place") := rfl
  have hnote : (titled "note").record? = some (0, titled "note") := rfl
  rw [paths, hproperties, pathsFrom_record hplace, pathsFrom_record hplace, pathsFrom_record hnote,
    pathsFrom_nil]
  simp only [paths, titled_properties, pathsFrom_nil]
  rfl

/-- The names that they ask for. -/
theorem requested_journey :
    Requested [("Journey", journey)] ["Journey", "Place", "Place", "Note"]
      ["Journey", "Place", "Place2", "Note"] := by
  let nameUnder (step : Step) : String := ["Place", "Place2", "Note"].getD step.position ""
  let declared (path : Path) : Declaration := ⟨(path.head?.map nameUnder).getD "Journey", none, []⟩
  have hplace (key : String) : targetName "Journey" key 0 (titled "place") = "Place" := by
    have htitle : (titled "place").title? = some "place" := by decide
    rw [targetName_eq (by decide) key 0 rfl, htitle, Option.getD_some]
    decide +kernel
  have hnote : targetName "Journey" "note" 0 (titled "note") = "Note" := by
    rw [targetName_eq (by decide) "note" 0 rfl]
    decide +kernel
  have hasked : journey.paths.map (requestAt "Journey" declared) =
      ["Journey", "Place", "Place", "Note"] := by
    rw [paths_journey]
    show ["Journey", targetName "Journey" "start" 0 (titled "place"),
      targetName "Journey" "end" 0 (titled "place"),
      targetName "Journey" "note" 0 (titled "note")] = _
    rw [hplace, hplace, hnote]
  have h := @Requested.cons "Journey" journey _ _ _ declared .nil
  rw [hasked, paths_journey, List.append_nil, List.append_nil] at h
  exact h

theorem duplicates_numbered_journey :
    (declarationsOfSchema journey "Journey" "suffix").result = .ok journeyDeclarations ∧
      answersTo "Place" ["Journey", "Place", "Place", "Note"] (journeyDeclarations.map (·.name)) =
        ["Place", "Place2"] ∧
      (journeyDeclarations.map (·.name))[3]? = some "Note" ∧
      (declarationsOfTools [call, call] "suffix").result = .ok callDeclarations ∧
      ∃ roots, RootsOf [call, call] roots ∧
        NumberedRun roots (callDeclarations.map (·.name)) := by
  have hrun : (declarationsOfSchema journey "Journey" "suffix").result =
      .ok journeyDeclarations := by
    decide +kernel
  have hcall : (declarationsOfTools [call, call] "suffix").result = .ok callDeclarations := by
    decide +kernel
  have hnumbering :=
    (duplicates_numbered.1 journey "Journey" _ hrun).numbering _ requested_journey
  have hforms := hnumbering.forms "Place" (by decide +kernel)
  have hstems : ∀ (j : Nat) (other : String),
      ["Journey", "Place", "Place", "Note"][j]? = some other → j ≠ 3 →
        stem other ≠ stem "Note" := by
    intro j other hother hj
    match j with
    | 0 | 1 | 2 =>
      cases hother
      decide +kernel
    | 3 => exact absurd rfl hj
    | j + 4 => cases hother
  have hkeeps := hnumbering.keeps 3 "Note" rfl hstems
  exact ⟨hrun, hforms, hkeeps, hcall, duplicates_numbered.2 _ _ hcall⟩

end SchemaRecords

import SchemaRecords.Proofs.Record.ClosedForm
import SchemaRecords.Proofs.Record.Distinct
import SchemaRecords.Proofs.Record.Wider

/-!
# What a schema asks for

A run that refuses clashes gives every record and every field the name it asks for, or no answer.
So what it answers can be said without a scope, for all schemas and root names.

* `askedUnder`, `asked` -- the declarations that a schema asks for;
* `Emits.eq_asked` -- a walk that refuses clashes and answers emits those;
* `emits_asked` -- and it answers if no name is asked for twice;
* `refusing_iff` -- **a run that refuses clashes answers what the schema asks for, exactly if the
  names in that are distinct**.
-/

namespace SchemaRecords.Record

open Name Schema

/-! ## 1. Declarations with the names they ask for -/

/-- The declaration of a record under the given name, with the fields it asks for. -/
def recordAt (name : String) (r : Schema) : Declaration :=
  ⟨name, r.documentation?, fieldsAt name r.keywords.required r.properties⟩

/-- The declarations that the properties of a record ask for. -/
def askedUnder (record : String) : List (String × Schema) → List Declaration
  | [] => []
  | (key, s) :: rest =>
      match h : s.record? with
      | none => askedUnder record rest
      | some (depth, r) =>
          have : sizeOf r.properties < sizeOf ((key, s) :: rest) := sizeOf_record_lt h key rest
          let name := targetName record key depth r
          (recordAt name r :: askedUnder name r.properties) ++ askedUnder record rest
termination_by ps => sizeOf ps

/-- The declarations that a schema asks for under a root name. -/
def asked (root : String) (schema : Schema) : List Declaration :=
  recordAt root schema :: askedUnder root schema.properties

theorem askedUnder_nil (record : String) : askedUnder record [] = [] := by
  unfold askedUnder
  rfl

theorem askedUnder_plain {s : Schema} (h : s.record? = none) (record key : String)
    (rest : List (String × Schema)) :
    askedUnder record ((key, s) :: rest) = askedUnder record rest := by
  rw [askedUnder]
  split
  · rfl
  · rename_i hs
    rw [h] at hs
    cases hs

theorem askedUnder_record {s r : Schema} {depth : Nat} (h : s.record? = some (depth, r))
    (record key : String) (rest : List (String × Schema)) :
    askedUnder record ((key, s) :: rest) =
      asked (targetName record key depth r) r ++ askedUnder record rest := by
  rw [askedUnder]
  split
  · rename_i hs
    rw [h] at hs
    cases hs
  · rename_i hs
    rw [h] at hs
    cases hs
    rfl

theorem fieldsAt_cons (record : String) (required : List String) (key : String) (s : Schema)
    (rest : List (String × Schema)) :
    fieldsAt record required ((key, s) :: rest) =
      fieldAt record required key s :: fieldsAt record required rest := rfl

/-! ## 2. One walk -/

section Emits

variable {record : String} {required : List String} {own scope scope' : Scope}
  {ps : List (String × Schema)} {fields : List Field} {nested : List Declaration}

/-- **A walk that refuses clashes emits what is asked for.** -/
theorem Emits.eq_asked (h : Emits record required own scope ps fields nested scope')
    (ho : own.policy = .refuse) (hs : scope.policy = .refuse) :
    fields = fieldsAt record required ps ∧ nested = askedUnder record ps := by
  induction h with
  | nil record required own scope =>
    rw [askedUnder_nil]
    exact ⟨rfl, rfl⟩
  | plain hplain hname _ ih =>
    obtain rfl := Scope.eq_of_claim_refuse ho hname
    obtain ⟨_, rfl, _⟩ := Scope.claim_ok hname
    obtain ⟨rfl, rfl⟩ := ih ho hs
    rw [askedUnder_plain hplain, fieldOf_eq_fieldAt]
    exact ⟨rfl, rfl⟩
  | record hrec hclaim hbelow hname _ ihb ih =>
    obtain rfl := Scope.eq_of_claim_refuse hs hclaim
    obtain rfl := Scope.eq_of_claim_refuse ho hname
    obtain ⟨_, rfl, _⟩ := Scope.claim_ok hclaim
    obtain ⟨_, rfl, _⟩ := Scope.claim_ok hname
    obtain ⟨rfl, rfl⟩ := ihb hs hs
    obtain ⟨rfl, rfl⟩ := ih ho (hbelow.policy_eq.trans hs)
    rw [askedUnder_record hrec, beq_self_eq_true, if_pos rfl, fieldOf_eq_fieldAt]
    exact ⟨rfl, rfl⟩

/-- A name that is free before others is free, and they are free behind it. -/
theorem nodup_cons_append {name : String} {names taken : List String}
    (h : (name :: (names ++ taken)).Nodup) : name ∉ taken ∧ (names ++ name :: taken).Nodup :=
  ⟨fun hmem => (List.nodup_cons.mp h).1 (List.mem_append_right _ hmem), List.nodup_middle.mpr h⟩

/-- A name that is free before those under it and those behind it: it is free, those under it are
    free behind it, and those behind it are free after both. -/
theorem nodup_cons_append_append {name : String} {under behind taken : List String}
    (h : (name :: (under ++ (behind ++ taken))).Nodup) :
    name ∉ taken ∧ (under ++ name :: taken).Nodup ∧
      (behind ++ (under.reverse ++ name :: taken)).Nodup := by
  obtain ⟨hname, hunder⟩ := nodup_cons_append h
  refine ⟨fun hmem => hname (List.mem_append_right _ hmem), hunder.sublist ?_, ?_⟩
  · exact List.Sublist.append_left (List.Sublist.cons_cons _ (List.sublist_append_right _ _)) _
  · have hperm : (under ++ (behind ++ name :: taken)).Perm
        (behind ++ (under.reverse ++ name :: taken)) := by
      refine List.perm_append_comm_assoc _ _ _ |>.trans ?_
      exact List.Perm.append_left _ (List.Perm.append_right _ (List.reverse_perm under).symm)
    refine hperm.nodup_iff.mp ?_
    rw [← List.append_assoc]
    refine List.nodup_middle.mpr ?_
    rw [List.append_assoc]
    exact h

theorem claim_of_not_mem (scope : Scope) {name : String} (h : name ∉ scope.taken) :
    (scope.claim name).result = .ok (name, scope.take name) := by
  rw [Scope.claim_free h]
  rfl

/-- **A walk answers if no name is asked for twice**, and none that is in use: neither in the run,
    nor in the record, nor in one of the records under it. -/
theorem emits_asked (own scope : Scope)
    (hfields : ((fieldsAt record required ps).map (·.name) ++ own.taken).Nodup)
    (hrun : ((askedUnder record ps).map (·.name) ++ scope.taken).Nodup)
    (hnames : ∀ d ∈ askedUnder record ps, d.names.Nodup) :
    ∃ scope', Emits record required own scope ps (fieldsAt record required ps)
      (askedUnder record ps) scope' := by
  induction ps using properties_induction generalizing record required own scope with
  | nil =>
    rw [askedUnder_nil]
    exact ⟨scope, .nil record required own scope⟩
  | plain key s rest hs ih =>
    rw [askedUnder_plain hs] at hrun hnames ⊢
    rw [fieldsAt_cons] at hfields ⊢
    obtain ⟨hfree, hothers⟩ := nodup_cons_append hfields
    obtain ⟨scope', hrest⟩ := ih (own.take (pascal key)) scope hothers hrun hnames
    refine ⟨scope', ?_⟩
    rw [← fieldOf_eq_fieldAt]
    exact .plain hs (claim_of_not_mem own hfree) hrest
  | record key s rest depth r hs ihr ih =>
    rw [askedUnder_record hs] at hrun hnames ⊢
    rw [fieldsAt_cons] at hfields ⊢
    obtain ⟨hfree, hothers⟩ := nodup_cons_append hfields
    rw [List.map_append, List.append_assoc] at hrun
    obtain ⟨hnew, hunder, hbehind⟩ := nodup_cons_append_append hrun
    obtain ⟨hfirst, hrecords⟩ := List.forall_mem_append.mp hnames
    obtain ⟨hrecord, hbelow⟩ := List.forall_mem_cons.mp hfirst
    -- the record itself, then what is under it, then what is behind it
    have hclaim : (scope.claim (targetName record key depth r)).result =
        .ok (targetName record key depth r, scope.take (targetName record key depth r)) :=
      claim_of_not_mem scope hnew
    have hown := (List.perm_append_singleton _ _).nodup_iff.mpr hrecord
    obtain ⟨scope₂, hwalk⟩ := ihr (.new _ (some _)) (scope.take _) hown hunder hbelow
    rw [← Scope.taken_take, ← hwalk.taken_eq] at hbehind
    obtain ⟨scope₃, hrest⟩ := ih (own.take (pascal key)) scope₂ hothers hbehind hrecords
    refine ⟨scope₃, ?_⟩
    have hname : (own.claim (pascal key)).result = .ok (pascal key, own.take (pascal key)) :=
      claim_of_not_mem own hfree
    have hw := Emits.record hs hclaim hwalk hname hrest
    rw [beq_self_eq_true, if_pos rfl, fieldOf_eq_fieldAt] at hw
    exact hw

end Emits

/-! ## 3. Runs -/

theorem namesDistinct_iff {declarations : List Declaration} :
    NamesDistinct declarations ↔
      (declarations.map (·.name)).Nodup ∧ ∀ d ∈ declarations, d.names.Nodup :=
  ⟨fun h => ⟨h.records, fun d hd => List.nodup_cons.mpr ⟨h.owner d hd, h.fields d hd⟩⟩,
    fun h => namesDistinct_of h.1 h.2⟩

/-- **A run that refuses clashes answers what the schema asks for**, exactly if the names in that
    are distinct. -/
theorem refusing_iff {schema : Schema} {root : String} {declarations : List Declaration} :
    (declarationsOfSchema schema root "error").result = .ok declarations ↔
      declarations = asked root schema ∧ NamesDistinct declarations := by
  rw [namesDistinct_iff]
  constructor
  · intro h
    obtain ⟨policy, hp, h⟩ := declarationsOfSchema_ok h
    obtain rfl : policy = .refuse := (Option.some.inj hp).symm
    unfold ofSchema at h
    obtain ⟨⟨emitted, scope⟩, he, h⟩ := Outcome.result_bind_eq_ok.mp h
    cases h
    obtain ⟨htaken, hn, hd⟩ := emitRoot_names he List.nodup_nil
    refine ⟨?_, ?_, hd⟩
    · obtain ⟨claimed, scope₁, fields, nested, hclaim, hwalk, rfl⟩ := emitRoot_ok he
      obtain rfl := Scope.eq_of_claim_refuse rfl hclaim
      obtain ⟨_, rfl, _⟩ := Scope.claim_ok hclaim
      obtain ⟨rfl, rfl⟩ := hwalk.eq_asked rfl rfl
      rfl
    · rw [htaken] at hn
      exact List.nodup_reverse.mp (List.Nodup.of_append_left hn)
  · rintro ⟨rfl, hnames, hd⟩
    obtain ⟨hrecord, hnested⟩ := List.forall_mem_cons.mp hd
    have hown := (List.perm_append_singleton _ _).nodup_iff.mpr hrecord
    have hrun := (List.perm_append_singleton _ _).nodup_iff.mpr hnames
    obtain ⟨scope', hwalk⟩ := emits_asked (.new .refuse (some root))
      ((Scope.new .refuse none).take root) hown hrun hnested
    have hclaim := claim_of_not_mem (.new .refuse none) (List.not_mem_nil (a := root))
    exact declarationsOfSchema_eq_ok (Policy.ofName?_name .refuse) (emitRoot_eq_ok hclaim hwalk)

end SchemaRecords.Record

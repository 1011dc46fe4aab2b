import SchemaRecords.Proofs.Record.Asked
import SchemaRecords.Proofs.Schema.Reordered

/-!
# Runs over properties in another order

Under the policy that refuses, the order of properties decides the order of what a run answers, and
nothing else.

* `SameUpToOrder` -- the same declarations, in another order and with their fields in another order;
* `askedUnder_perm`, `sameUpToOrder_askedUnder` -- what properties in another order ask for, and
  what properties do whose schemas differ in order;
* `SameUpToOrder.namesDistinct_iff` -- whether names are distinct does not hang on order;
* `order_irrelevant` -- so a run answers for one order exactly if it does for the other, and then it
  answers the same up to order.
-/

namespace SchemaRecords.Record

open Name Schema

/-! ## 1. The same up to order -/

/-- The same record, with its fields in another order. -/
structure SameRecord (d e : Declaration) : Prop where
  name : d.name = e.name
  documentation : d.documentation = e.documentation
  fields : d.fields.Perm e.fields

theorem SameRecord.symm {d e : Declaration} (h : SameRecord d e) : SameRecord e d :=
  ⟨h.name.symm, h.documentation.symm, h.fields.symm⟩

theorem SameRecord.names_perm {d e : Declaration} (h : SameRecord d e) :
    d.names.Perm e.names := by
  rw [Declaration.names, Declaration.names, h.name]
  exact (h.fields.map _).cons _

/-- The same records in another order. -/
def SameUpToOrder (ds es : List Declaration) : Prop :=
  ∃ mid, List.Forall₂ SameRecord ds mid ∧ mid.Perm es

namespace SameUpToOrder

variable {ds es ds' es' : List Declaration}

theorem symm (h : SameUpToOrder ds es) : SameUpToOrder es ds := by
  obtain ⟨mid, hsame, hperm⟩ := h
  have hback : List.Forall₂ SameRecord mid ds :=
    List.Forall₂.flip (hsame.imp fun _ _ h => h.symm)
  obtain ⟨mid', hsame', hperm'⟩ := List.perm_comp_forall₂ hperm.symm hback
  exact ⟨mid', hsame', hperm'⟩

theorem cons {d e : Declaration} (hd : SameRecord d e) (h : SameUpToOrder ds es) :
    SameUpToOrder (d :: ds) (e :: es) := by
  obtain ⟨mid, hsame, hperm⟩ := h
  exact ⟨e :: mid, hsame.cons hd, hperm.cons e⟩

theorem append (h : SameUpToOrder ds es) (h' : SameUpToOrder ds' es') :
    SameUpToOrder (ds ++ ds') (es ++ es') := by
  obtain ⟨mid, hsame, hperm⟩ := h
  obtain ⟨mid', hsame', hperm'⟩ := h'
  exact ⟨mid ++ mid', List.rel_append hsame hsame', hperm.append hperm'⟩

theorem perm (h : SameUpToOrder ds es) (hperm : es.Perm es') : SameUpToOrder ds es' := by
  obtain ⟨mid, hsame, hmid⟩ := h
  exact ⟨mid, hsame, hmid.trans hperm⟩

theorem map_name_perm (h : SameUpToOrder ds es) : (ds.map (·.name)).Perm (es.map (·.name)) := by
  obtain ⟨mid, hsame, hperm⟩ := h
  have hnames : ds.map (·.name) = mid.map (·.name) :=
    List.forall₂_eq_eq_eq ▸ List.forall₂_map_left_iff.mpr
      (List.forall₂_map_right_iff.mpr (hsame.imp fun _ _ h => h.name))
  rw [hnames]
  exact hperm.map _

/-- Every record is among the others. -/
theorem exists_of_mem (h : SameUpToOrder ds es) {d : Declaration} (hd : d ∈ ds) :
    ∃ e ∈ es, SameRecord d e := by
  obtain ⟨mid, hsame, hperm⟩ := h
  obtain ⟨i, hi, rfl⟩ := List.mem_iff_getElem.mp hd
  have hlen := hsame.length_eq ▸ hi
  exact ⟨mid[i], hperm.mem_iff.mp (List.getElem_mem hlen), hsame.get hi hlen⟩

theorem namesDistinct (h : SameUpToOrder ds es) (hd : NamesDistinct ds) : NamesDistinct es := by
  rw [namesDistinct_iff] at hd ⊢
  obtain ⟨hrecords, hnames⟩ := hd
  refine ⟨h.map_name_perm.nodup_iff.mp hrecords, fun e he => ?_⟩
  obtain ⟨d, hmem, hsame⟩ := h.symm.exists_of_mem he
  exact hsame.names_perm.nodup_iff.mpr (hnames d hmem)

/-- Whether names are distinct does not hang on order. -/
theorem namesDistinct_iff (h : SameUpToOrder ds es) : NamesDistinct ds ↔ NamesDistinct es :=
  ⟨h.namesDistinct, h.symm.namesDistinct⟩

end SameUpToOrder

/-! ## 2. Fields and records that are asked for -/

theorem targetName_reordered {r r' : Schema} (h : r.Reordered r') (record key : String)
    (depth : Nat) : targetName record key depth r = targetName record key depth r' := by
  unfold targetName TypeRef.ofSchema
  rw [TypeRef.ofSchemaIn_reordered h]

theorem fieldAt_reordered {s t : Schema} (h : s.Reordered t) (record : String)
    (required : List String) (key : String) :
    fieldAt record required key s = fieldAt record required key t := by
  unfold fieldAt TypeRef.ofSchema
  rw [TypeRef.ofSchemaIn_reordered h, h.documentation?_eq]

theorem fieldsAt_reordered {ps qs : List (String × Schema)}
    (h : List.Forall₂ ReorderedPart ps qs) (record : String) (required : List String) :
    fieldsAt record required ps = fieldsAt record required qs := by
  induction h with
  | nil => rfl
  | cons hpart _ ih =>
    obtain ⟨key, hs⟩ := hpart
    rw [fieldsAt_cons, fieldsAt_cons, fieldAt_reordered hs, ih]

theorem sameRecord_recordAt {r r' : Schema} (h : r.Reordered r') (name : String) :
    SameRecord (recordAt name r) (recordAt name r') := by
  obtain ⟨mid, hparts, horder⟩ := h.properties
  refine ⟨rfl, h.documentation?_eq, ?_⟩
  show (fieldsAt name r.keywords.required r.properties).Perm
    (fieldsAt name r'.keywords.required r'.properties)
  rw [fieldsAt_reordered hparts, h.keywords_eq]
  exact horder.map _

/-- What the first property asks for stands in front. -/
theorem askedUnder_cons (record : String) (p : String × Schema) (rest : List (String × Schema)) :
    askedUnder record (p :: rest) = askedUnder record [p] ++ askedUnder record rest := by
  obtain ⟨key, s⟩ := p
  cases hs : s.record? with
  | none => rw [askedUnder_plain hs, askedUnder_plain hs, askedUnder_nil, List.nil_append]
  | some found =>
    obtain ⟨depth, r⟩ := found
    rw [askedUnder_record hs, askedUnder_record hs, askedUnder_nil, List.append_nil]

/-- **Properties in another order ask for the same in another order.** -/
theorem askedUnder_perm (record : String) {ps qs : List (String × Schema)} (h : ps.Perm qs) :
    (askedUnder record ps).Perm (askedUnder record qs) := by
  induction h with
  | nil => exact List.Perm.refl _
  | @cons p rest rest' _ ih =>
    rw [askedUnder_cons record p rest, askedUnder_cons record p rest']
    exact ih.append_left _
  | swap p q rest =>
    rw [askedUnder_cons record q (p :: rest), askedUnder_cons record p rest,
      askedUnder_cons record p (q :: rest), askedUnder_cons record q rest]
    exact List.perm_append_comm_assoc _ _ _
  | trans _ _ ih₁ ih₂ => exact ih₁.trans ih₂

/-- What a schema asks for, from what its properties do. -/
theorem sameUpToOrder_of_properties {r r' : Schema} (h : r.Reordered r') {name : String}
    (hbelow : ∀ {mid}, List.Forall₂ ReorderedPart r.properties mid →
      SameUpToOrder (askedUnder name r.properties) (askedUnder name mid)) :
    SameUpToOrder (asked name r) (asked name r') := by
  obtain ⟨mid, hparts, horder⟩ := h.properties
  exact .cons (sameRecord_recordAt h name) ((hbelow hparts).perm (askedUnder_perm name horder))

/-- **Properties whose schemas differ in order ask for the same up to order.** -/
theorem sameUpToOrder_askedUnder {record : String} {ps qs : List (String × Schema)}
    (h : List.Forall₂ ReorderedPart ps qs) :
    SameUpToOrder (askedUnder record ps) (askedUnder record qs) := by
  induction ps using properties_induction generalizing record qs with
  | nil =>
    cases h
    rw [askedUnder_nil]
    exact ⟨[], List.Forall₂.nil, List.Perm.nil⟩
  | plain key s rest hs ih =>
    cases h with
    | cons hpart hrest =>
      cases hpart with
      | mk _ hst =>
        rw [askedUnder_plain hs, askedUnder_plain (hst.record?_none hs)]
        exact ih hrest
  | record key s rest depth r hs ihr ih =>
    cases h with
    | cons hpart hrest =>
      cases hpart with
      | mk _ hst =>
        obtain ⟨r', ht, hr⟩ := hst.record?_some hs
        rw [askedUnder_record hs, askedUnder_record ht, targetName_reordered hr]
        exact (sameUpToOrder_of_properties hr ihr).append (ih hrest)

/-- **A schema asks for the same up to order** as one that differs from it in the order of
    properties. -/
theorem sameUpToOrder_asked {s t : Schema} (h : s.Reordered t) (root : String) :
    SameUpToOrder (asked root s) (asked root t) :=
  sameUpToOrder_of_properties h sameUpToOrder_askedUnder

/-! ## 3. Runs -/

/-- **The order of properties does not matter** to a run that refuses clashes: for two schemas that
    differ in nothing else, at any number of places and at any depth, it answers for both or for
    neither, and its answers are the same up to the order of records and of their fields. -/
theorem order_irrelevant {s t : Schema} (h : s.Reordered t) (root : String) :
    ((∃ ds, (declarationsOfSchema s root "error").result = .ok ds) ↔
      ∃ es, (declarationsOfSchema t root "error").result = .ok es) ∧
    ∀ ds es, (declarationsOfSchema s root "error").result = .ok ds →
      (declarationsOfSchema t root "error").result = .ok es → SameUpToOrder ds es := by
  have hasked := sameUpToOrder_asked h root
  refine ⟨?_, fun ds es hs ht => ?_⟩
  · simp only [refusing_iff, exists_eq_left]
    exact hasked.namesDistinct_iff
  · obtain ⟨rfl, _⟩ := refusing_iff.mp hs
    obtain ⟨rfl, _⟩ := refusing_iff.mp ht
    exact hasked

/-- An airport, by its city and its country. -/
def airport (order : List (String × Schema) → List (String × Schema)) : Schema :=
  .node { Keywords.none with kind := .object } none
    (order [("city", .node { Keywords.none with kind := .string } none []),
      ("country", .node { Keywords.none with kind := .string } none [])])

/-- A flight that starts at an airport and has airports as stops. -/
def flight (order : List (String × Schema) → List (String × Schema)) : Schema :=
  .node { Keywords.none with kind := .object, required := ["from"] } none
    (order [("from", airport id),
      ("stops", .node { Keywords.none with kind := .array } (some (airport order)) [])])

/-- The declarations of a flight. -/
def flightDeclarations (order : {α : Type} → List α → List α) : List Declaration :=
  ⟨"Flight", none,
      order [⟨"From", "from", ⟨"FlightFrom", false⟩, none, true⟩,
        ⟨"Stops", "stops", ⟨"IReadOnlyList<FlightStopsItem>", true⟩, none, false⟩]⟩ ::
    order [⟨"FlightFrom", none,
        [⟨"City", "city", ⟨"string", true⟩, none, false⟩,
          ⟨"Country", "country", ⟨"string", true⟩, none, false⟩]⟩,
      ⟨"FlightStopsItem", none,
        order [⟨"City", "city", ⟨"string", true⟩, none, false⟩,
          ⟨"Country", "country", ⟨"string", true⟩, none, false⟩]⟩]

/-- A flight with its own properties in reverse, and those of its stops. -/
theorem reordered_flight : (flight id).Reordered (flight List.reverse) := by
  have hleaf : ∀ k : Keywords, Reordered (.node k none []) (.node k none []) := fun _ =>
    .node .none .nil .nil
  have hairport : ∀ order : List (String × Schema) → List (String × Schema),
      (∀ ps : List (String × Schema), ps.Perm (order ps)) →
      (airport id).Reordered (airport order) := fun order horder =>
    .node .none (.cons (.mk _ (hleaf _)) (.cons (.mk _ (hleaf _)) .nil)) (horder _)
  have hreverse : ∀ ps : List (String × Schema), ps.Perm ps.reverse := fun ps =>
    (List.reverse_perm ps).symm
  have hstops := hairport List.reverse hreverse
  exact .node .none
    (.cons (.mk _ (hairport id List.Perm.refl))
      (.cons (.mk _ (.node (.some hstops) .nil .nil)) .nil))
    (hreverse _)

theorem order_irrelevant_flight :
    (flight id).Reordered (flight List.reverse) ∧
      (declarationsOfSchema (flight id) "Flight" "error").result = .ok (flightDeclarations id) ∧
      (declarationsOfSchema (flight List.reverse) "Flight" "error").result =
        .ok (flightDeclarations List.reverse) ∧
      SameUpToOrder (flightDeclarations id) (flightDeclarations List.reverse) := by
  have hs : (declarationsOfSchema (flight id) "Flight" "error").result =
      .ok (flightDeclarations id) := by decide +kernel
  have ht : (declarationsOfSchema (flight List.reverse) "Flight" "error").result =
      .ok (flightDeclarations List.reverse) := by decide +kernel
  exact ⟨reordered_flight, hs, ht, (order_irrelevant reordered_flight "Flight").2 _ _ hs ht⟩

end SchemaRecords.Record

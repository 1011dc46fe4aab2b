import SchemaRecords.Proofs.Record.Distinct
import SchemaRecords.Proofs.Record.Naming

/-!
# The clash that a run refuses

A run that refuses clashes ends at the first of them, in the order in which names are claimed.

* `events` -- the names that a schema claims, each in its place: the names of declarations in the
  run, the names of fields in their record. What is under a property comes before its field;
* `Taken`, `ClashFree` -- an event whose name is in use in its place, by an earlier event or as the
  name of the record; events among which there is none;
* `firstTaken` -- the first such event;
* `Plays` -- a step of the run that claims the names of some events: it answers if none of them is
  taken, else it ends with the clash of the first; `plays_emitFields` -- a walk is such a step;
* `refuses_first_clash` -- and so is the run.
-/

namespace SchemaRecords.Record

open Name Schema

/-! ## 1. Events -/

/-- Where a name is claimed: in the run, or among the fields of a record. Records are told apart by
    the positions of the properties that lead to them. -/
inductive Place where
  | run
  | record (address : List Nat) (name : String)
  deriving DecidableEq, Repr

/-- The record whose fields have their names in a place. -/
def Place.owner : Place → Option String
  | .run => none
  | .record _ name => some name

/-- A name that is claimed in a place. -/
structure Event where
  place : Place
  name : String
  deriving DecidableEq, Repr

/-- The clash over an event. -/
def Event.clash (e : Event) : Clash :=
  match e.place with
  | .run => .declaration e.name
  | .record _ record => .field record e.name

/-- The events of the properties of a record, counted from a position on. -/
def eventsFrom (address : List Nat) (record : String) (position : Nat) :
    List (String × Schema) → List Event
  | [] => []
  | (key, s) :: rest =>
      let field : Event := ⟨.record address record, pascal key⟩
      match h : s.record? with
      | none => field :: eventsFrom address record (position + 1) rest
      | some (depth, r) =>
          have : sizeOf r.properties < sizeOf ((key, s) :: rest) := sizeOf_record_lt h key rest
          let name := (TypeRef.ofSchema r (some (compose record key depth))).name
          ⟨.run, name⟩ :: eventsFrom (address ++ [position]) name 0 r.properties ++
            field :: eventsFrom address record (position + 1) rest
termination_by ps => sizeOf ps

/-- The events of a schema under a root name. -/
def events (schema : Schema) (root : String) : List Event :=
  ⟨.run, root⟩ :: eventsFrom [] root 0 schema.properties

theorem eventsFrom_nil (address : List Nat) (record : String) (position : Nat) :
    eventsFrom address record position [] = [] := by
  unfold eventsFrom
  rfl

theorem eventsFrom_plain {s : Schema} (h : s.record? = none) (address : List Nat)
    (record : String) (position : Nat) (key : String) (rest : List (String × Schema)) :
    eventsFrom address record position ((key, s) :: rest) =
      ⟨.record address record, pascal key⟩ :: eventsFrom address record (position + 1) rest := by
  rw [eventsFrom]
  split
  · rfl
  · rename_i hs
    rw [h] at hs
    cases hs

theorem eventsFrom_record {s r : Schema} {depth : Nat} (h : s.record? = some (depth, r))
    (address : List Nat) (record : String) (position : Nat) (key : String)
    (rest : List (String × Schema)) :
    eventsFrom address record position ((key, s) :: rest) =
      (⟨.run, targetName record key depth r⟩ ::
        eventsFrom (address ++ [position]) (targetName record key depth r) 0 r.properties) ++
      ⟨.record address record, pascal key⟩ :: eventsFrom address record (position + 1) rest := by
  rw [eventsFrom]
  split
  · rename_i hs
    rw [h] at hs
    cases hs
  · rename_i hs
    rw [h] at hs
    cases hs
    rw [targetName, compose_append_items]

/-- The events of a record are in the run, among its own fields, or at an address below one of its
    properties. -/
theorem place_of_mem_eventsFrom {address : List Nat} {record : String} {position : Nat}
    {ps : List (String × Schema)} {e : Event} (he : e ∈ eventsFrom address record position ps)
    {a : List Nat} {name : String} (hp : e.place = .record a name) :
    a = address ∨ ∃ i, position ≤ i ∧ address ++ [i] <+: a := by
  induction ps using properties_induction generalizing address record position with
  | nil =>
    rw [eventsFrom_nil] at he
    cases he
  | plain key s rest hs ih =>
    rw [eventsFrom_plain hs] at he
    rcases List.mem_cons.mp he with rfl | he
    · cases hp
      exact Or.inl rfl
    · rcases ih he with h | ⟨i, hi, h⟩
      · exact Or.inl h
      · exact Or.inr ⟨i, by omega, h⟩
  | record key s rest depth r hs ihr ih =>
    rw [eventsFrom_record hs] at he
    rcases List.mem_append.mp he with he | he
    · refine Or.inr ⟨position, Nat.le_refl position, ?_⟩
      rcases List.mem_cons.mp he with rfl | he
      · cases hp
      · rcases ihr he with rfl | ⟨i, _, h⟩
        · exact List.prefix_refl _
        · exact (List.prefix_append _ [i]).trans h
    · rcases List.mem_cons.mp he with rfl | he
      · cases hp
        exact Or.inl rfl
      · rcases ih he with h | ⟨i, hi, h⟩
        · exact Or.inl h
        · exact Or.inr ⟨i, by omega, h⟩

/-! ## 2. Events that are taken -/

/-- The names in use in a place after some events: that of the record whose fields are named there,
    and those that were claimed there. -/
def inUse (before : List Event) (place : Place) : List String :=
  place.owner.toList ++ (before.filter (·.place = place)).map (·.name)

/-- An event, after some others, whose name is in use in its place. -/
def Taken (before : List Event) (e : Event) : Prop := e.name ∈ inUse before e.place

instance (before : List Event) (e : Event) : Decidable (Taken before e) :=
  inferInstanceAs (Decidable (_ ∈ _))

/-- Events none of which is taken when its turn comes. -/
def ClashFree (es : List Event) : Prop :=
  ∀ before e after, es = before ++ e :: after → ¬ Taken before e

/-- The first event that is taken, where some others came before. -/
def firstTaken (before : List Event) : List Event → Option Event
  | [] => none
  | e :: rest => if Taken before e then some e else firstTaken (before ++ [e]) rest

theorem firstTaken_append (before es fs : List Event) :
    firstTaken before (es ++ fs) =
      (firstTaken before es).or (firstTaken (before ++ es) fs) := by
  induction es generalizing before with
  | nil => simp [firstTaken]
  | cons e rest ih =>
    rw [List.cons_append, firstTaken, firstTaken]
    split
    · rfl
    · rw [ih, List.append_assoc]
      rfl

/-- **The first event that is taken**, after a part without one. -/
theorem firstTaken_eq_some {before es : List Event} {e : Event} :
    firstTaken before es = some e ↔
      ∃ first after, es = first ++ e :: after ∧ firstTaken before first = none ∧
        Taken (before ++ first) e := by
  induction es generalizing before with
  | nil => simp [firstTaken]
  | cons d rest ih =>
    rw [firstTaken]
    split
    · rename_i hd
      constructor
      · intro h
        cases h
        exact ⟨[], rest, rfl, rfl, by simpa using hd⟩
      · rintro ⟨first, after, h, hn, _⟩
        cases first with
        | nil =>
          cases h
          rfl
        | cons d' first =>
          cases h
          rw [firstTaken, if_pos hd] at hn
          cases hn
    · -- `d` belongs to the part in front, and is before the rest
      rename_i hd
      rw [ih]
      constructor
      · rintro ⟨first, after, rfl, hn, ht⟩
        refine ⟨d :: first, after, rfl, ?_, ?_⟩
        · rw [firstTaken, if_neg hd]
          exact hn
        · rwa [List.append_assoc] at ht
      · rintro ⟨first, after, h, hn, ht⟩
        cases first with
        | nil =>
          cases h
          exact absurd (by simpa using ht) hd
        | cons d' first =>
          cases h
          rw [firstTaken, if_neg hd] at hn
          refine ⟨first, after, rfl, hn, ?_⟩
          rwa [List.append_assoc]

theorem clashFree_iff {es : List Event} : ClashFree es ↔ firstTaken [] es = none := by
  constructor
  · intro h
    cases hf : firstTaken [] es with
    | none => rfl
    | some e =>
      obtain ⟨first, after, hes, _, ht⟩ := firstTaken_eq_some.mp hf
      exact absurd ht (h first e after hes)
  · rintro h before e after rfl ht
    rw [firstTaken_append, Option.or_eq_none_iff, firstTaken, List.nil_append, if_pos ht] at h
    cases h.2

/-- The first of some events that is taken, by the parts around it. -/
theorem firstTaken_iff {es : List Event} {e : Event} :
    firstTaken [] es = some e ↔
      ∃ before after, es = before ++ e :: after ∧ ClashFree before ∧ Taken before e := by
  rw [firstTaken_eq_some]
  simp only [clashFree_iff, List.nil_append]

/-! ## 3. Steps of a run -/

/-- **A step that claims the names of some events**, after others: it answers as stated if none of
    them is taken, and else it ends with the clash over the first that is. -/
def Plays {α : Type} (before es : List Event) (x : Outcome Clash α) (post : α → Prop) : Prop :=
  match x.result with
  | .ok a => firstTaken before es = none ∧ post a
  | .error c => (firstTaken before es).map Event.clash = some c

section Plays

variable {α β : Type} {before es fs : List Event}

theorem plays_of_ok {x : Outcome Clash α} {a : α} {post : α → Prop} (hx : x.result = .ok a)
    (h : post a) : Plays before [] x post := by
  unfold Plays
  rw [hx]
  exact ⟨rfl, h⟩

/-- Steps one after the other claim the names of their events one after the other. -/
theorem Plays.bind {x : Outcome Clash α} {f : α → Outcome Clash β} {mid : α → Prop}
    {post : β → Prop} (hx : Plays before es x mid)
    (hf : ∀ a, mid a → Plays (before ++ es) fs (f a) post) :
    Plays before (es ++ fs) (x >>= f) post := by
  unfold Plays at hx ⊢
  rw [Outcome.result_bind, firstTaken_append]
  cases hr : x.result with
  | error c =>
    rw [hr] at hx
    obtain ⟨e, he, hc⟩ := Option.map_eq_some_iff.mp hx
    simp only [he, Option.some_or, ← hc]
    rfl
  | ok a =>
    rw [hr] at hx
    obtain ⟨hn, ha⟩ := hx
    rw [hn, Option.none_or]
    exact hf a ha

/-- A step behind which nothing is claimed. -/
theorem Plays.bind_nil {x : Outcome Clash α} {f : α → Outcome Clash β} {mid : α → Prop}
    {post : β → Prop} (hx : Plays before es x mid)
    (hf : ∀ a, mid a → Plays (before ++ es) [] (f a) post) : Plays before es (x >>= f) post := by
  have h := hx.bind hf
  rwa [List.append_nil] at h

theorem Plays.ok_iff {x : Outcome Clash α} {post : α → Prop} (h : Plays before es x post) :
    (∃ a, x.result = .ok a) ↔ firstTaken before es = none := by
  unfold Plays at h
  cases hr : x.result with
  | error c =>
    rw [hr] at h
    obtain ⟨e, he, _⟩ := Option.map_eq_some_iff.mp h
    refine ⟨nofun, fun hn => ?_⟩
    rw [hn] at he
    cases he
  | ok a =>
    rw [hr] at h
    exact ⟨fun _ => h.1, fun _ => ⟨a, rfl⟩⟩

theorem Plays.error_iff {x : Outcome Clash α} {post : α → Prop} (h : Plays before es x post)
    {c : Clash} :
    x.result = .error c ↔ ∃ e, firstTaken before es = some e ∧ e.clash = c := by
  rw [← Option.map_eq_some_iff]
  unfold Plays at h
  cases hr : x.result with
  | error d =>
    rw [hr] at h
    rw [h, Except.error.injEq, Option.some.injEq]
  | ok a =>
    rw [hr] at h
    refine ⟨nofun, fun hc => ?_⟩
    rw [h.1] at hc
    cases hc

end Plays

/-- **A scope that refuses clashes and holds what is in use in a place.** -/
structure Agrees (before : List Event) (place : Place) (scope : Scope) : Prop where
  policy : scope.policy = .refuse
  owner : scope.owner = place.owner
  taken : ∀ name, name ∈ scope.taken ↔ name ∈ inUse before place

section Agrees

variable {before : List Event} {place : Place} {scope : Scope}

theorem inUse_append (before es : List Event) (place : Place) :
    inUse (before ++ es) place =
      inUse before place ++ (es.filter (·.place = place)).map (·.name) := by
  rw [inUse, inUse, List.filter_append, List.map_append, List.append_assoc]

/-- Events in other places do not matter. -/
theorem Agrees.append (h : Agrees before place scope) {es : List Event}
    (he : ∀ e ∈ es, e.place ≠ place) : Agrees (before ++ es) place scope := by
  refine ⟨h.policy, h.owner, fun name => ?_⟩
  have hnone : es.filter (·.place = place) = [] :=
    List.filter_eq_nil_iff.mpr fun e hmem => by simpa using he e hmem
  rw [inUse_append, hnone, List.map_nil, List.append_nil]
  exact h.taken name

/-- A name in a place is one more name in use there. -/
theorem Agrees.take (h : Agrees before place scope) (name : String) :
    Agrees (before ++ [⟨place, name⟩]) place (scope.take name) := by
  refine ⟨h.policy, h.owner, fun other => ?_⟩
  rw [Scope.taken_take, inUse_append, List.mem_cons, h.taken]
  simp [or_comm]

theorem Agrees.clash (h : Agrees before place scope) (name : String) :
    scope.clash name = Event.clash ⟨place, name⟩ := by
  unfold Scope.clash
  rw [h.owner]
  cases place <;> rfl

/-- **A claim is a step with one event**, and what follows it goes on from there. -/
theorem plays_claim (h : Agrees before place scope) (name : String) {α : Type} {es : List Event}
    {f : String × Scope → Outcome Clash α} {post : α → Prop}
    (hf : ∀ scope', Agrees (before ++ [⟨place, name⟩]) place scope' →
      Plays (before ++ [⟨place, name⟩]) es (f (name, scope')) post) :
    Plays before (⟨place, name⟩ :: es) (scope.claim name >>= f) post := by
  unfold Plays
  rw [Outcome.result_bind, Scope.claim_refuse h.policy, firstTaken]
  by_cases ht : name ∈ scope.taken
  · have htaken : Taken before ⟨place, name⟩ := (h.taken name).mp ht
    rw [if_pos ht, if_pos htaken, h.clash]
    rfl
  · have htaken : ¬ Taken before ⟨place, name⟩ := fun hu => ht ((h.taken name).mpr hu)
    rw [if_neg ht, if_neg htaken]
    exact hf (scope.take name) (h.take name)

end Agrees

/-! ## 4. One walk -/

/-- No event so far is at an address or below it. -/
def Untouched (before : List Event) (address : List Nat) : Prop :=
  ∀ e ∈ before, ∀ a name, e.place = .record a name → ¬ address <+: a

theorem Untouched.append {before es : List Event} {address : List Nat}
    (h : Untouched before address) (he : Untouched es address) :
    Untouched (before ++ es) address := fun e hmem =>
  (List.mem_append.mp hmem).elim (h e) (he e)

theorem Untouched.below {before : List Event} {address : List Nat} (h : Untouched before address)
    (i : Nat) : Untouched before (address ++ [i]) := fun e hmem a name hp hle =>
  h e hmem a name hp ((List.prefix_append address [i]).trans hle)

/-- A scope in which only the name of a record is in use, where the record has not been met. -/
theorem agrees_new {before : List Event} {address : List Nat} (h : Untouched before address)
    (record : String) :
    Agrees before (.record address record) (.new .refuse (some record)) := by
  refine ⟨rfl, rfl, fun name => ?_⟩
  have hnone : before.filter (·.place = .record address record) = [] :=
    List.filter_eq_nil_iff.mpr fun e hmem hp =>
      h e hmem address record (by simpa using hp) (List.prefix_refl address)
  rw [inUse, hnone, List.map_nil, List.append_nil]
  rfl

theorem not_prefix_self_append (address : List Nat) (i : Nat) : ¬ address ++ [i] <+: address := by
  intro h
  have hle := h.length_le
  rw [List.length_append, List.length_singleton] at hle
  omega

theorem position_unique {address a : List Nat} {i j : Nat} (hi : address ++ [i] <+: a)
    (hj : address ++ [j] <+: a) : i = j := by
  have h : address ++ [i] <+: address ++ [j] :=
    List.prefix_of_prefix_length_le hi hj (by simp)
  have e := h.eq_of_length (by simp)
  simpa using e

/-- The walk over some properties is a step with their events, wherever their record is. -/
def WalkPlays (ps : List (String × Schema)) : Prop :=
  ∀ {record : String} {required : List String} {own scope : Scope} {before : List Event}
    {address : List Nat} {position : Nat}, Agrees before .run scope →
    Agrees before (.record address record) own →
    (∀ i, position ≤ i → Untouched before (address ++ [i])) →
    Plays before (eventsFrom address record position ps) (emitFields record required own scope ps)
      fun (_, _, scope') => Agrees (before ++ eventsFrom address record position ps) .run scope'

theorem plays_emitRecord {name : String} {description : Option String} {scope : Scope}
    {walk : Scope → Outcome Clash (List Field × List Declaration × Scope)}
    {before es : List Event} {post : Scope → Prop}
    (h : Plays before es (walk (.new scope.policy (some name))) fun (_, _, scope') => post scope') :
    Plays before es (emitRecord name description scope walk) fun (_, scope') => post scope' := by
  unfold emitRecord
  refine h.bind_nil fun (fields, nested, scope') hpost => ?_
  exact plays_of_ok rfl hpost

/-- A record under a property claims its name, and then the names under it are claimed. -/
theorem plays_emitNested {s r : Schema} {depth : Nat} (hs : s.record? = some (depth, r))
    (hwalk : WalkPlays r.properties) {record key : String} {scope : Scope} {before : List Event}
    {address : List Nat} (hrun : Agrees before .run scope) (hnew : Untouched before address) :
    Plays before
      (⟨.run, targetName record key depth r⟩ ::
        eventsFrom address (targetName record key depth r) 0 r.properties)
      (emitNested (compose record key 0) 0 scope s) fun n =>
        Agrees (before ++ (⟨.run, targetName record key depth r⟩ ::
          eventsFrom address (targetName record key depth r) 0 r.properties)) .run n.scope := by
  obtain ⟨rfl, rfl, hr⟩ := record?_eq_some hs
  rw [emitNested_eq, Nat.zero_add, emitObject, if_pos hr]
  refine plays_claim hrun _ fun scope₁ hrun₁ => ?_
  have huntouched : Untouched (before ++ [⟨.run, targetName record key s.depth s.core⟩]) address :=
    hnew.append (by simp [Untouched])
  have hown := agrees_new huntouched (targetName record key s.depth s.core)
  rw [← hrun₁.policy] at hown
  refine (plays_emitRecord (hwalk hrun₁ hown fun i _ => huntouched.below i)).bind_nil ?_
  rintro ⟨declarations, scope₂⟩ hrun₂
  refine plays_of_ok rfl ?_
  rw [List.append_assoc] at hrun₂
  exact hrun₂

/-- The events under a property are in the run, or at an address from that property on. -/
theorem place_of_mem_nested {address : List Nat} {position : Nat} {name : String}
    {ps : List (String × Schema)} {e : Event}
    (he : e ∈ (⟨.run, name⟩ : Event) :: eventsFrom (address ++ [position]) name 0 ps)
    {a : List Nat} {record : String} (hp : e.place = .record a record) :
    address ++ [position] <+: a := by
  rcases List.mem_cons.mp he with rfl | he
  · cases hp
  · rcases place_of_mem_eventsFrom he hp with rfl | ⟨j, _, h⟩
    · exact List.prefix_refl _
    · exact (List.prefix_append _ [j]).trans h

/-- What is left of a walk once the property at hand has been emitted: its field claims its name,
    and the other properties follow. -/
theorem plays_field {record : String} (key : String) (required : List String) {own scope : Scope}
    {before : List Event} {address : List Nat} {position : Nat} {rest : List (String × Schema)}
    (hwalk : WalkPlays rest) (hrun : Agrees before .run scope)
    (hown : Agrees before (.record address record) own)
    (hnew : ∀ i, position < i → Untouched before (address ++ [i]))
    (field : String → Field) (above : List Declaration) :
    Plays before
      (⟨.record address record, pascal key⟩ :: eventsFrom address record (position + 1) rest)
      (do
        let (name, own) ← own.claim (pascal key)
        let (fields, more, scope) ← emitFields record required own scope rest
        return (field name :: fields, above ++ more, scope))
      fun (_, _, scope') =>
        Agrees (before ++ (⟨.record address record, pascal key⟩ ::
          eventsFrom address record (position + 1) rest)) .run scope' := by
  refine plays_claim hown _ fun own' hown' => ?_
  have hrun' : Agrees (before ++ [⟨.record address record, pascal key⟩]) .run scope :=
    hrun.append (by simp)
  have hnew' : ∀ i, position + 1 ≤ i →
      Untouched (before ++ [⟨.record address record, pascal key⟩]) (address ++ [i]) := by
    refine fun i hi => (hnew i hi).append fun e he a name hp => ?_
    rw [List.mem_singleton] at he
    subst he
    cases hp
    exact not_prefix_self_append address i
  refine (hwalk hrun' hown' hnew').bind_nil ?_
  rintro ⟨fields, more, scope'⟩ hafter
  refine plays_of_ok rfl ?_
  rw [List.append_assoc] at hafter
  exact hafter

/-- **A walk is a step with the events of its properties.** -/
theorem plays_emitFields (ps : List (String × Schema)) : WalkPlays ps := by
  induction ps using properties_induction with
  | nil =>
    intro record required own scope before address position hrun _ _
    rw [eventsFrom_nil, List.append_nil]
    exact plays_of_ok rfl hrun
  | plain key s rest hs ih =>
    intro record required own scope before address position hrun hown hnew
    rw [eventsFrom_plain hs, emitFields_cons, emitNested_plain hs]
    exact plays_field key required ih hrun hown
      (fun i hi => hnew i (Nat.le_of_lt hi))
      (fun name => fieldOf name key (required.contains key)
        (fieldType (compose record key 0) none s) s) []
  | record key s rest depth r hs ihr ih =>
    intro record required own scope before address position hrun hown hnew
    rw [eventsFrom_record hs, emitFields_cons]
    refine (plays_emitNested hs ihr hrun (hnew position (Nat.le_refl position))).bind ?_
    intro nested hrun'
    -- what lies under the property touches neither the record nor its other properties
    have hbelow : ∀ e ∈ (⟨.run, targetName record key depth r⟩ : Event) ::
        eventsFrom (address ++ [position]) (targetName record key depth r) 0 r.properties,
        e.place ≠ .record address record := fun e he hp =>
      not_prefix_self_append address position (place_of_mem_nested he hp)
    have hothers : ∀ i, position < i → Untouched
        (⟨.run, targetName record key depth r⟩ ::
          eventsFrom (address ++ [position]) (targetName record key depth r) 0 r.properties)
        (address ++ [i]) := fun i hi e he a name hp hle =>
      Nat.ne_of_lt hi (position_unique (place_of_mem_nested he hp) hle)
    rw [← List.append_assoc]
    exact plays_field key required ih hrun' (hown.append hbelow)
      (fun i hi => (hnew i (Nat.le_of_lt hi)).append (hothers i hi))
      (fun name => fieldOf name key (required.contains key)
        (fieldType (compose record key 0) nested.renamed s) s) nested.declarations

/-! ## 5. A run -/

theorem plays_emitRoot (schema : Schema) (root : String) :
    Plays [] (events schema root) (emitRoot schema root (.new .refuse none)) fun (_, scope) =>
      Agrees (events schema root) .run scope := by
  have hnone : Agrees [] .run (.new .refuse none) := ⟨rfl, rfl, fun name => Iff.rfl⟩
  unfold emitRoot
  refine plays_claim hnone root fun scope hrun => ?_
  have hnew : Untouched [⟨.run, root⟩] [] := by simp [Untouched]
  have hown := agrees_new hnew root
  rw [← hrun.policy] at hown
  exact plays_emitRecord (plays_emitFields schema.properties hrun hown fun i _ => hnew.below i)

/-- A run is a step with the events of its schema. -/
theorem plays_ofSchema (schema : Schema) (root : String) :
    Plays [] (events schema root) (ofSchema schema root .refuse) fun _ => True := by
  unfold ofSchema
  exact (plays_emitRoot schema root).bind_nil fun _ _ => plays_of_ok rfl trivial

/-- **A run that refuses clashes answers exactly if there is none**, and else it ends with the
    first: the clash over the first event of the schema whose name is in use in its place. -/
theorem refuses_first_clash (schema : Schema) (root : String) :
    ((∃ declarations, (declarationsOfSchema schema root "error").result = .ok declarations) ↔
      ClashFree (events schema root)) ∧
    ∀ fault, (declarationsOfSchema schema root "error").result = .error fault ↔
      ∃ before e after, events schema root = before ++ e :: after ∧ ClashFree before ∧
        Taken before e ∧ fault = .clash e.clash := by
  have hrun : (declarationsOfSchema schema root "error").result =
      ((ofSchema schema root .refuse).mapError Fault.clash).result := by
    unfold declarationsOfSchema policyOf
    rw [show "error" = Policy.refuse.name from rfl, Policy.ofName?_name]
    rfl
  have hplays := plays_ofSchema schema root
  rw [hrun]
  refine ⟨?_, fun fault => ?_⟩
  · simp only [Outcome.result_mapError_eq_ok]
    rw [hplays.ok_iff, clashFree_iff]
  · rw [Outcome.result_mapError_eq_error]
    constructor
    · rintro ⟨c, hc, rfl⟩
      obtain ⟨e, he, rfl⟩ := hplays.error_iff.mp hc
      obtain ⟨before, after, hsplit, hfree, ht⟩ := firstTaken_iff.mp he
      exact ⟨before, e, after, hsplit, hfree, ht, rfl⟩
    · rintro ⟨before, e, after, hsplit, hfree, ht, rfl⟩
      have he := firstTaken_iff.mpr ⟨before, after, hsplit, hfree, ht⟩
      exact ⟨e.clash, hplays.error_iff.mpr ⟨e, he, rfl⟩, rfl⟩

/-- Of the two clashes of a chain of orders, the one under the first property comes first. -/
example : (declarationsOfSchema orderChain "Order" "error").result =
    .error (.clash (.declaration "Order")) := by decide +kernel

end SchemaRecords.Record

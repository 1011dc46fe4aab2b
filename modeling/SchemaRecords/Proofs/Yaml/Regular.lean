import SchemaRecords.Proofs.Json.RoundTrip
import SchemaRecords.Yaml.OfText

/-!
# Values of YAML texts are regular

Every double in the value of a YAML text is regular: a scalar writes only such doubles, and the
passes over the nodes of a document only read scalars and move nodes. And no text is a key twice,
since a mapping is made by assignments.

* `isRegular_scalarValue` -- what a scalar writes;
* `Resolved.IsRegular` -- all scalars that were read are regular; every look at a node keeps it
  (`isRegular_ofNodes`);
* `isRegular_ofConstants` -- what assignments make;
* `Resolved.Closed` -- a property of values that comes from parts to wholes; `holds_ofYaml` -- the
  value of a text has each of them;
* `isRegular_ofYaml` -- so **the value of a whole text is regular**.
-/

namespace SchemaRecords.Yaml

open Document Number

/-! ## 1. What a scalar writes -/

theorem regular_sumSixties {weight : Nat} {sum x : Double} {parts : List Double}
    (hsum : sum.IsRegular) (h : sumSixties weight sum parts = .ok x) : x.IsRegular := by
  induction parts generalizing weight sum with
  | nil => exact Except.ok.inj h ▸ hsum
  | cons part rest ih =>
    rw [sumSixties] at h
    split at h
    · exact ih (regular_add _ _) h
    · cases h

theorem regular_floatPart {s : List Char} {x : Double} (h : floatPart s = .ok x) : x.IsRegular := by
  unfold floatPart at h
  split at h
  · rename_i hfloat
    exact Except.ok.inj h ▸ regular_float? hfloat
  · cases h

theorem isRegular_float {text : String} {value : Scalar} (h : float text = .ok value) :
    value.IsRegular := by
  have hsigned {negative : Bool} {x : Double} (hx : x.IsRegular)
      (h : .float (if negative then x.negate else x) = value) : value.IsRegular := by
    subst h
    split
    · exact hx.negate
    · exact hx
  unfold float at h
  simp only at h
  split at h
  · cases h
  · split at h
    · exact hsigned (show (Double.infinite false).IsRegular from trivial) (Except.ok.inj h)
    · split at h
      · exact hsigned (show Double.nan.IsRegular from trivial) (Except.ok.inj h)
      · split at h
        · obtain ⟨parts, _, h⟩ := bind_eq_ok.mp h
          obtain ⟨x, hx, h⟩ := bind_eq_ok.mp h
          exact hsigned (regular_sumSixties (regular_zero false) hx) (Except.ok.inj h)
        · obtain ⟨x, hx, h⟩ := bind_eq_ok.mp h
          exact hsigned (regular_floatPart hx) (Except.ok.inj h)

theorem isRegular_whole {text : String} {value : Scalar} (h : whole text = .ok value) :
    value.IsRegular := by
  have hsigned {negative : Bool} {part : Except Fault Int}
      (h : (part >>= fun n => .ok (.int (withSign negative n))) = .ok value) :
      value.IsRegular := by
    obtain ⟨n, _, h⟩ := bind_eq_ok.mp h
    exact Except.ok.inj h ▸ trivial
  unfold whole at h
  simp only at h
  split at h
  · cases h
  · split at h
    · exact hsigned h
    · exact hsigned h
    · exact hsigned h
    · exact hsigned h
    · split at h
      · obtain ⟨parts, _, h⟩ := bind_eq_ok.mp h
        exact hsigned h
      · exact hsigned h

theorem isRegular_truth {text : String} {value : Scalar} (h : truth text = .ok value) :
    value.IsRegular := by
  unfold truth at h
  simp only at h
  split_ifs at h
  · exact Except.ok.inj h ▸ trivial
  · exact Except.ok.inj h ▸ trivial

theorem isRegular_binary {text : String} {value : Scalar} (h : binary text = .ok value) :
    value.IsRegular := by
  unfold binary at h
  split at h
  · exact Except.ok.inj h ▸ trivial
  · cases h

theorem isRegular_calendar {text : String} {value : Scalar} (h : calendar text = .ok value) :
    value.IsRegular := by
  have hread {α : Type} {check : Except CalendarFault α} {f : α → Scalar}
      (hf : ∀ a, (f a).IsRegular) (h : (check.map f).mapError Fault.calendar = .ok value) :
      value.IsRegular := by
    cases check with
    | error e => cases h
    | ok a => exact Except.ok.inj h ▸ hf a
  unfold calendar at h
  split at h
  · cases h
  · exact hread (fun d => show (Scalar.date d).IsRegular from trivial) h
  · exact hread (fun m => show (Scalar.moment m).IsRegular from trivial) h

/-- **What a scalar writes is regular.** -/
theorem isRegular_scalarValue {tag text : String} {value : Scalar}
    (h : scalarValue tag text = .ok value) : value.IsRegular := by
  unfold scalarValue at h
  split_ifs at h
  · exact Except.ok.inj h ▸ trivial
  · exact Except.ok.inj h ▸ trivial
  · exact isRegular_truth h
  · exact isRegular_whole h
  · exact isRegular_float h
  · exact isRegular_calendar h
  · exact isRegular_binary h
  · cases h

/-! ## 2. What was read of a document -/

namespace Resolved

/-- All scalars that were read are regular. -/
def IsRegular (r : Resolved) : Prop :=
  ∀ (place : Nat) (c : Constant), r.constants.getD place none = some c → c.value.IsRegular

theorem isRegular_start (nodes : Array Node) : (start nodes).IsRegular := by
  intro place c h
  have hnone : (Array.replicate nodes.size (none : Option Constant)).getD place none = none := by
    rw [Array.getD_eq_getD_getElem?, Array.getElem?_replicate]
    split <;> rfl
  exact nomatch hnone.symm.trans h

theorem IsRegular.constant {r : Resolved} (h : r.IsRegular) (place : Nat) :
    (r.constant place).value.IsRegular := by
  unfold Resolved.constant
  cases hc : r.constants.getD place none with
  | none => trivial
  | some c => exact h place c hc

/-- What keeps the scalars keeps them regular. -/
theorem IsRegular.of_constants {r r' : Resolved} (h : r.IsRegular)
    (e : r'.constants = r.constants) : r'.IsRegular :=
  fun place c hc => h place c (e ▸ hc)

/-- A step that may fail keeps a property through a whole list of steps. -/
theorem foldlM_keeps {α β ε : Type} {P : β → Prop} {f : β → α → Except ε β}
    (hstep : ∀ {b a b'}, P b → f b a = .ok b' → P b') {l : List α} {b b' : β} (hb : P b)
    (h : l.foldlM f b = .ok b') : P b' := by
  induction l generalizing b with
  | nil => exact Except.ok.inj h ▸ hb
  | cons a rest ih =>
    rw [List.foldlM_cons] at h
    obtain ⟨mid, hmid, h⟩ := bind_eq_ok.mp h
    exact ih (hstep hb hmid) h

/-- The same of a loop that never stops early. -/
theorem forIn_keeps {α β ε : Type} {P : β → Prop} {f : α → β → Except ε (ForInStep β)}
    (hstep : ∀ {a b r}, P b → f a b = .ok r → ∃ b', r = .yield b' ∧ P b') {l : List α} {b b' : β}
    (hb : P b) (h : forIn l b f = .ok b') : P b' := by
  induction l generalizing b with
  | nil => exact Except.ok.inj h ▸ hb
  | cons a rest ih =>
    rw [List.forIn_cons] at h
    obtain ⟨r, hr, h⟩ := bind_eq_ok.mp h
    obtain ⟨mid, rfl, hmid⟩ := hstep hb hr
    exact ih hmid h

theorem constants_settleKey (place : Nat) (r : Resolved) :
    (r.settleKey place).constants = r.constants := by
  unfold settleKey
  split <;> rfl

/-- Merging reads no scalars. -/
theorem constants_merge {steps : Nat} {r r' : Resolved} {place : Nat}
    (h : merge steps r place = .ok r') : r'.constants = r.constants := by
  induction steps generalizing r r' place with
  | zero => cases h
  | succ steps ih =>
    rw [merge] at h
    obtain ⟨entries, _, h⟩ := bind_eq_ok.mp h
    obtain ⟨out, hout, h⟩ := bind_eq_ok.mp h
    obtain rfl := Except.ok.inj h
    refine forIn_keeps (P := fun b => b.1.constants = r.constants) ?_ rfl hout
    rintro ⟨key, value⟩ b step hb hstep
    simp only at hstep
    split at hstep
    · obtain ⟨mid, hmid, hstep⟩ := bind_eq_ok.mp hstep
      obtain ⟨taken, _, hstep⟩ := bind_eq_ok.mp hstep
      obtain rfl := Except.ok.inj hstep
      have hsources := foldlM_keeps (P := fun s => s.constants = r.constants)
        (fun hs h => (ih h).trans hs) hb hmid
      exact ⟨_, rfl, hsources⟩
    · obtain rfl := Except.ok.inj hstep
      exact ⟨_, rfl, (constants_settleKey key b.1).trans hb⟩

/-- One more scalar that is regular. -/
theorem IsRegular.read {r r' : Resolved} (hr : r.IsRegular) {place : Nat} {c : Constant}
    (hc : c.value.IsRegular) (e : r'.constants = r.constants.setIfInBounds place (some c)) :
    r'.IsRegular := by
  intro place' c' h
  rw [e, Array.getD_eq_getD_getElem?, Array.getElem?_setIfInBounds] at h
  by_cases hplace : place = place'
  · rw [if_pos hplace] at h
    split at h
    · obtain rfl := Option.some.inj h
      exact hc
    · cases h
  · rw [if_neg hplace] at h
    exact hr place' c' (by rw [Array.getD_eq_getD_getElem?]; exact h)

/-- A look at a node reads what a scalar writes, or nothing. -/
theorem isRegular_visit {r r' : Resolved} {place : Nat} (hr : r.IsRegular)
    (h : r.visit place = .ok r') : r'.IsRegular := by
  unfold visit at h
  simp only at h
  split_ifs at h
  · exact Except.ok.inj h ▸ hr
  · obtain ⟨text, _, h⟩ := bind_eq_ok.mp h
    obtain ⟨value, hvalue, h⟩ := bind_eq_ok.mp h
    obtain rfl := Except.ok.inj h
    exact hr.read (isRegular_scalarValue hvalue) rfl
  · exact Except.ok.inj h ▸ hr
  · cases h

theorem isRegular_visitEntry {r r' : Resolved} {entry : Nat × Nat} (hr : r.IsRegular)
    (h : r.visitEntry entry = .ok r') : r'.IsRegular := by
  rw [visitEntry] at h
  obtain ⟨mid, hmid, h⟩ := bind_eq_ok.mp h
  split at h
  · exact isRegular_visit (isRegular_visit hr hmid) h
  · cases h

theorem isRegular_visitPair {r r' : Resolved} {place : Nat} (hr : r.IsRegular)
    (h : r.visitPair place = .ok r') : r'.IsRegular := by
  rw [visitPair] at h
  obtain ⟨entries, _, h⟩ := bind_eq_ok.mp h
  split at h
  · obtain ⟨mid, hmid, h⟩ := bind_eq_ok.mp h
    exact isRegular_visit (isRegular_visit hr hmid) h
  · cases h

theorem isRegular_expand {r r' : Resolved} {place : Nat} (hr : r.IsRegular)
    (h : r.expand place = .ok r') : r'.IsRegular := by
  unfold expand at h
  simp only at h
  split at h
  · cases h
  · split_ifs at h
    · exact foldlM_keeps isRegular_visit hr h
    · cases h
    · exact foldlM_keeps isRegular_visitPair hr h
  · split_ifs at h
    · obtain ⟨merged, hmerged, h⟩ := bind_eq_ok.mp h
      obtain ⟨entries, _, h⟩ := bind_eq_ok.mp h
      exact foldlM_keeps isRegular_visitEntry (hr.of_constants (constants_merge hmerged)) h
    · cases h

theorem isRegular_descend {steps : Nat} {level : List Nat} {r r' : Resolved} (hr : r.IsRegular)
    (h : descend steps level r = .ok r') : r'.IsRegular := by
  induction steps generalizing level r with
  | zero => cases h
  | succ steps ih =>
    cases level with
    | nil => exact Except.ok.inj h ▸ hr
    | cons place rest =>
      rw [descend] at h
      obtain ⟨mid, hmid, h⟩ := bind_eq_ok.mp h
      have hstart : IsRegular { r with waiting := [] } := hr.of_constants rfl
      exact ih (foldlM_keeps isRegular_expand hstart hmid) h
      nofun

/-- **All scalars of a document are regular.** -/
theorem isRegular_ofNodes {nodes : Array Node} {r : Resolved} (h : ofNodes nodes = .ok r) :
    r.IsRegular := by
  rw [ofNodes] at h
  obtain ⟨first, hfirst, h⟩ := bind_eq_ok.mp h
  exact isRegular_descend (isRegular_visit (isRegular_start nodes) hfirst) h

end Resolved

/-! ## 3. Mappings -/

/-- Assigning to a key keeps the keys, or puts the key behind them if none is the same. -/
theorem keys_assign (entries : List (Constant × Value)) (entry : Constant × Value) :
    (assign entries entry).map (·.1) = entries.map (·.1) ∨
      (assign entries entry).map (·.1) = entries.map (·.1) ++ [entry.1] ∧
        ∀ k ∈ entries.map (·.1), k.same entry.1 = false := by
  induction entries with
  | nil => exact Or.inr ⟨rfl, nofun⟩
  | cons first rest ih =>
    obtain ⟨k, v⟩ := first
    rw [assign]
    by_cases hsame : k.same entry.1 = true
    · rw [if_pos hsame]
      exact Or.inl rfl
    · rw [if_neg hsame]
      refine ih.imp (fun h => by rw [List.map_cons, List.map_cons, h]) fun ⟨h, hrest⟩ => ?_
      refine ⟨by rw [List.map_cons, List.map_cons, h, List.cons_append], ?_⟩
      rw [List.map_cons, List.forall_mem_cons]
      exact ⟨Bool.eq_false_iff.mpr hsame, hrest⟩

/-- Every value after an assignment was there before, or was assigned. -/
theorem mem_assign {entries : List (Constant × Value)} {entry e : Constant × Value}
    (h : e ∈ assign entries entry) : e.2 ∈ entries.map (·.2) ∨ e.2 = entry.2 := by
  induction entries with
  | nil => exact Or.inr (by rw [List.mem_singleton.mp h])
  | cons first rest ih =>
    rw [assign] at h
    rw [List.map_cons, List.mem_cons]
    split at h
    · rcases List.mem_cons.mp h with rfl | h
      · exact Or.inr rfl
      · exact Or.inl (Or.inr (List.mem_map_of_mem h))
    · rcases List.mem_cons.mp h with rfl | h
      · exact Or.inl (Or.inl rfl)
      · exact (ih h).imp_left Or.inr

/-- Every value after assignments was there before, or was assigned. -/
theorem mem_foldl_assign {assignments entries : List (Constant × Value)} {e : Constant × Value}
    (h : e ∈ assignments.foldl assign entries) :
    e.2 ∈ entries.map (·.2) ∨ e.2 ∈ assignments.map (·.2) := by
  induction assignments generalizing entries with
  | nil => exact Or.inl (List.mem_map_of_mem h)
  | cons first rest ih =>
    rw [List.map_cons, List.mem_cons]
    rcases ih h with h | h
    · obtain ⟨e', he', hvalue⟩ := List.mem_map.mp h
      rw [← hvalue]
      exact (mem_assign he').imp_right Or.inl
    · exact Or.inr (Or.inr h)

/-- Regular constants, of which no two are the same. -/
structure Assigned (entries : List (Constant × Value)) : Prop where
  distinct : (entries.map (·.1)).Pairwise fun a b => a.same b = false
  keys : ∀ k ∈ entries.map (·.1), k.value.IsRegular

theorem Assigned.assign {entries : List (Constant × Value)} (h : Assigned entries)
    {entry : Constant × Value} (hkey : entry.1.value.IsRegular) :
    Assigned (assign entries entry) := by
  rcases keys_assign entries entry with hkeys | ⟨hkeys, hnew⟩
  · exact ⟨hkeys ▸ h.distinct, hkeys ▸ h.keys⟩
  · refine ⟨?_, ?_⟩
    · rw [hkeys, List.pairwise_append]
      exact ⟨h.distinct, List.pairwise_singleton _ _,
        fun k hk k' hk' => List.mem_singleton.mp hk' ▸ hnew k hk⟩
    · rw [hkeys, List.forall_mem_append]
      exact ⟨h.keys, List.forall_mem_singleton.mpr hkey⟩

/-- Two constants with one text are the same. -/
theorem same_of_text {a b : Constant} {name : String} (ha : a.value = .text name)
    (hb : b.value = .text name) : a.same b = true := by
  rw [Constant.same, ha, hb, Scalar.same_text, beq_self_eq_true, Bool.true_and, Bool.or_eq_true]
  exact Or.inl rfl

/-- All assignments to regular keys keep what each of them keeps. -/
theorem Assigned.foldl {assignments entries : List (Constant × Value)}
    (h : ∀ e ∈ assignments, e.1.value.IsRegular) (hentries : Assigned entries) :
    Assigned (assignments.foldl Yaml.assign entries) := by
  induction assignments generalizing entries with
  | nil => exact hentries
  | cons first rest ih =>
    obtain ⟨hfirst, hrest⟩ := List.forall_mem_cons.mp h
    exact ih hrest (hentries.assign hfirst)

theorem assigned_foldl {assignments : List (Constant × Value)}
    (h : ∀ e ∈ assignments, e.1.value.IsRegular) : Assigned (assignments.foldl assign []) :=
  Assigned.foldl h ⟨.nil, nofun⟩

/-- Every value of a mapping was assigned. -/
theorem mem_ofConstants {assignments : List (Constant × Value)} {e : Scalar × Value}
    (h : e ∈ ofConstants assignments) : e.2 ∈ assignments.map (·.2) := by
  obtain ⟨e', he', rfl⟩ := List.mem_map.mp h
  exact (mem_foldl_assign he').resolve_left List.not_mem_nil

/-- **Assignments of regular values to regular keys make a regular mapping.** -/
theorem isRegular_ofConstants {assignments : List (Constant × Value)}
    (h : ∀ e ∈ assignments, e.1.value.IsRegular ∧ e.2.IsRegular) :
    (Value.mapping (ofConstants assignments)).IsRegular := by
  obtain ⟨hdistinct, hkeys⟩ := assigned_foldl fun e he => (h e he).1
  refine ⟨?_, entriesRegular_iff.mpr fun e he => ⟨?_, ?_⟩⟩
  · rw [DistinctTexts, ofConstants, List.map_map]
    rw [List.pairwise_map] at hdistinct ⊢
    refine hdistinct.imp fun hne name ha hb => ?_
    exact Bool.false_ne_true (hne.symm.trans (same_of_text ha hb))
  · obtain ⟨e', he', rfl⟩ := List.mem_map.mp he
    exact hkeys _ (List.mem_map_of_mem he')
  · obtain ⟨e', he', hvalue⟩ := List.mem_map.mp (mem_ofConstants he)
    exact hvalue ▸ (h e' he').2

/-! ## 4. The values of a document -/

namespace Resolved

variable {P : Value → Prop} {r : Resolved}

/-- A property of values that scalars which were read have, and that collections have whose parts
    have it. -/
structure Closed (r : Resolved) (P : Value → Prop) : Prop where
  null : P .null
  scalar : ∀ place c, r.constants.getD place none = some c → P (.scalar c.value)
  list : ∀ items : List Value, (∀ v ∈ items, P v) → P (.list items)
  pair : ∀ first second, P first → P second → P (.pair first second)
  mapping : ∀ assignments : List (Constant × Value),
    (∀ e ∈ assignments, (∃ place, e.1 = r.constant place) ∧ P e.2) →
      P (.mapping (ofConstants assignments)) ∧ P (.set ((ofConstants assignments).map (·.1)))

/-- All values in a row have a property. -/
def Holds (P : Value → Prop) (values : Array Value) : Prop :=
  ∀ place, P (values.getD place .null)

theorem Holds.push {values : Array Value} (h : Holds P values) {v : Value} (hv : P v) :
    Holds P (values.push v) := by
  intro place
  rw [Array.getD_eq_getD_getElem?, Array.getElem?_push]
  split
  · exact hv
  · rw [← Array.getD_eq_getD_getElem?]
    exact h place

namespace Closed

theorem pairAt (hr : Closed r P) {values : Array Value} (h : Holds P values) (place : Nat) :
    P (r.pairAt values place) := by
  unfold Resolved.pairAt
  split
  · exact hr.pair _ _ (h _) (h _)
  · exact hr.null

/-- A collection has the property of the values before it. -/
theorem collection (hr : Closed r P) {values : Array Value} (h : Holds P values) (n : Node) :
    P (r.collection values n) := by
  cases n with
  | scalar tag text => exact hr.null
  | sequence tag items =>
    rw [Resolved.collection]
    split
    · refine hr.list _ fun v hv => ?_
      obtain ⟨place, _, rfl⟩ := List.mem_map.mp hv
      exact h place
    · refine hr.list _ fun v hv => ?_
      obtain ⟨place, _, rfl⟩ := List.mem_map.mp hv
      exact hr.pairAt h place
  | mapping tag entries =>
    have hparts : ∀ e ∈ entries.map fun entry => (r.constant entry.1, values.getD entry.2 .null),
        (∃ place, e.1 = r.constant place) ∧ P e.2 := by
      intro e he
      obtain ⟨entry, _, rfl⟩ := List.mem_map.mp he
      exact ⟨⟨entry.1, rfl⟩, h entry.2⟩
    obtain ⟨hmapping, hset⟩ := hr.mapping _ hparts
    rw [Resolved.collection]
    split
    · exact hset
    · exact hmapping

/-- **All values of a document have the property.** -/
theorem holds (hr : Closed r P) : Holds P r.values := by
  refine Array.foldl_induction (fun _ values => Holds P values) ?_ ?_
  · intro place
    exact hr.null
  · intro i values hvalues
    refine hvalues.push ?_
    split
    · rename_i c hc
      exact hr.scalar _ c hc
    · split
      · exact hr.collection hvalues _
      · exact hr.null

end Closed

/-- Values of regular scalars are regular. -/
theorem IsRegular.closed (h : r.IsRegular) : Closed r Value.IsRegular where
  null := trivial
  scalar := h
  list _ hitems := areRegular_iff.mpr hitems
  pair _ _ hfirst hsecond := ⟨hfirst, hsecond⟩
  mapping _ hparts := by
    refine ⟨isRegular_ofConstants fun e he => ?_, trivial⟩
    obtain ⟨⟨place, hplace⟩, hvalue⟩ := hparts e he
    exact ⟨hplace ▸ h.constant place, hvalue⟩

end Resolved

/-! ## 5. Whole texts -/

/-- **A property that the values of all documents have is one of the value of a YAML text.** -/
theorem holds_ofYaml {P : Value → Prop} (hnull : P .null)
    (hclosed : ∀ r : Resolved, r.IsRegular → r.Closed P) {text : String} {v : Value}
    (h : Value.ofYaml text = .ok v) : P v := by
  unfold Value.ofYaml read at h
  obtain ⟨nodes, _, h⟩ := bind_eq_ok.mp h
  split at h
  · exact Except.ok.inj h ▸ hnull
  · obtain ⟨r, hr, h⟩ := bind_eq_ok.mp h
    obtain rfl := Except.ok.inj h
    have hall := (hclosed r (Resolved.isRegular_ofNodes hr)).holds (r.values.size - 1)
    rwa [Array.getD_eq_getD_getElem?, ← Array.back?_eq_getElem?] at hall

/-- **The value of a YAML text is regular.** -/
theorem isRegular_ofYaml {text : String} {v : Value} (h : Value.ofYaml text = .ok v) :
    v.IsRegular :=
  holds_ofYaml trivial (fun _ hr => hr.closed) h

end SchemaRecords.Yaml

import SchemaRecords.Proofs.Faults
import SchemaRecords.Proofs.Schema.WellFormed

/-!
# Documents of which texts can be made

A schema is read with the texts of some values: those at five of its words, and those of the keys of
its properties. A whole number that is too long has no text.

* `Displayable` -- a document without such a number where a text is made, whatever it has elsewhere;
* `ofShape_ofValue` -- only the shape of such a document is at fault;
* `displayable_of_isWritable` -- a document that can be written is one of them.
-/

namespace SchemaRecords

open Document

variable {v : Value} {entries : Entries}

/-! ## 1. Where texts are made -/

mutual

/-- A document in which no value of which a text is made has too long a number. -/
inductive Displayable : Value → Prop
  | mapping {entries : Entries}
      (texts : ∀ v ∈ textsBefore entries ++ textsAfter entries, v.isWritable = true)
      (items : Displayable (get "items" entries))
      (properties : PropertiesDisplayable (get "properties" entries)) :
      Displayable (.mapping entries)
  | other {v : Value} (h : ∀ entries, v ≠ .mapping entries) : Displayable v

/-- A value at `properties` with such keys and such parts. -/
inductive PropertiesDisplayable : Value → Prop
  | mapping {entries : Entries} (keys : ∀ e ∈ entries, e.1.isWritable = true)
      (parts : ∀ e ∈ entries, Displayable e.2) : PropertiesDisplayable (.mapping entries)
  | other {v : Value} (h : ∀ entries, v ≠ .mapping entries) : PropertiesDisplayable v

end

/-! ## 2. Faults of their shape -/

/-- What is no mapping is at fault for its shape, or not at all. -/
theorem ofShape_partOf_other (h : ∀ entries, v ≠ .mapping entries) :
    FaultsIn SchemaFault.OfShape (partOf v) := by
  by_cases htruth : ∃ b, v = .scalar (.bool b)
  · obtain ⟨b, rfl⟩ := htruth
    rw [partOf]
    exact faultsIn_ok _
  · rw [partOf_other (fun b hb => htruth ⟨b, hb⟩) h]
    exact faultsIn_error.mpr nofun

/-- Parts that are at fault for their shape alone, under keys of which texts can be made. -/
theorem ofShape_partsOf_of {entries : List (Scalar × Value)}
    (keys : ∀ e ∈ entries, e.1.isWritable = true)
    (parts : ∀ e ∈ entries, FaultsIn SchemaFault.OfShape (partOf e.2)) :
    FaultsIn SchemaFault.OfShape (partsOf entries) := by
  induction entries with
  | nil => exact faultsIn_ok []
  | cons e rest ih =>
    obtain ⟨key, value⟩ := e
    obtain ⟨hkey, hkeys⟩ := List.forall_mem_cons.mp keys
    obtain ⟨hvalue, hvalues⟩ := List.forall_mem_cons.mp parts
    have hwritable : areWritable [.scalar key] = true :=
      areWritable_iff.mpr (List.forall_mem_singleton.mpr hkey)
    rw [partsOf, ensureWritable, if_pos hwritable]
    refine faultsIn_bind.mpr ⟨faultsIn_ok (), fun _ _ => ?_⟩
    refine faultsIn_bind.mpr ⟨hvalue, fun _ _ => ?_⟩
    exact faultsIn_bind.mpr ⟨ih hkeys hvalues, fun _ _ => faultsIn_ok _⟩

/-- Items are at fault for no other reason than the value there. -/
theorem ofShape_itemsAt (h : FaultsIn SchemaFault.OfShape (partOf v)) :
    FaultsIn SchemaFault.OfShape (itemsAt v) := by
  by_cases hpart : IsPart v
  · obtain ⟨b, rfl⟩ | ⟨entries, rfl⟩ := hpart
    · exact faultsIn_map.mpr h
    · exact faultsIn_map.mpr h
  · rw [itemsAt_of_not_isPart hpart]
    exact faultsIn_ok none

mutual

/-- **A document of which the texts can be made is at fault for its shape alone**, below the top. -/
theorem ofShape_displayable : ∀ {v : Value}, Displayable v →
    FaultsIn SchemaFault.OfShape (partOf v)
  | _, @Displayable.mapping entries texts items properties => by
    have hitems := ofShape_itemsAt (ofShape_displayable items)
    have hproperties := ofShape_propertiesDisplayable properties
    have hwritable (values : List Value)
        (h : ∀ v ∈ values, v ∈ textsBefore entries ++ textsAfter entries) :
        ensureWritable values = .ok () := by
      rw [ensureWritable, if_pos (areWritable_iff.mpr fun v hv => texts v (h v hv))]
    rw [partOf_of_writable (hwritable _ fun v hv => List.mem_append_left _ hv)
      (hwritable _ fun v hv => List.mem_append_right _ hv), itemsOf_eq, propertiesOf_eq]
    split
    · refine faultsIn_bind.mpr ⟨hitems, fun _ _ => ?_⟩
      exact faultsIn_bind.mpr ⟨hproperties, fun _ _ => faultsIn_ok _⟩
    · exact faultsIn_error.mpr nofun
  | _, .other h => ofShape_partOf_other h

theorem ofShape_propertiesDisplayable : ∀ {v : Value}, PropertiesDisplayable v →
    FaultsIn SchemaFault.OfShape (propertiesAt v)
  | _, .mapping keys parts => ofShape_partsOf_of keys fun e he => ofShape_displayable (parts e he)
  | v, .other h => by
    cases v with
    | mapping entries => exact absurd rfl (h entries)
    | _ => exact faultsIn_ok []

end

/-- **So it is as a whole**, where a truth value is no schema. -/
theorem ofShape_ofValue (h : Displayable v) :
    FaultsIn SchemaFault.OfShape (Schema.ofValue v) := by
  by_cases htruth : ∃ b, v = .scalar (.bool b)
  · obtain ⟨b, rfl⟩ := htruth
    exact faultsIn_error.mpr nofun
  · rw [Schema.ofValue]
    · exact ofShape_displayable h
    · exact fun b hb => htruth ⟨b, hb⟩

/-! ## 3. Documents that can be written -/

theorem entriesWritable_iff :
    entriesWritable entries = true ↔
      ∀ e ∈ entries, e.1.isWritable = true ∧ e.2.isWritable = true := by
  induction entries with
  | nil => exact iff_of_true rfl (List.forall_mem_nil _)
  | cons e rest ih =>
    rw [entriesWritable, Bool.and_eq_true, Bool.and_eq_true, ih, List.forall_mem_cons]

theorem isWritable_get (h : entriesWritable entries = true) (word : String) :
    (get word entries).isWritable = true := by
  rcases get_eq_null_or_mem word entries with hnull | ⟨e, he, hvalue⟩
  · rw [hnull]
    rfl
  · rw [← hvalue]
    exact (entriesWritable_iff.mp h e he).2

theorem isWritable_of_mem_listOf? {item : Value} (hv : v.isWritable = true)
    (h : item ∈ (listOf? v).getD []) : item.isWritable = true := by
  cases v with
  | list items => exact areWritable_iff.mp hv item h
  | _ => exact absurd h List.not_mem_nil

mutual

/-- **Of a document that can be written the texts can be made**, also where it stands for
    properties. -/
theorem displayable_of_isWritable : ∀ v : Value, v.isWritable = true →
    Displayable v ∧ PropertiesDisplayable v
  | .scalar s, _ => ⟨.other nofun, .other nofun⟩
  | .list items, _ => ⟨.other nofun, .other nofun⟩
  | .pair a b, _ => ⟨.other nofun, .other nofun⟩
  | .set items, _ => ⟨.other nofun, .other nofun⟩
  | .mapping entries, h => by
    have hparts := displayable_of_entriesWritable entries h
    have hget (word : String) :
        Displayable (get word entries) ∧ PropertiesDisplayable (get word entries) := by
      rcases get_eq_null_or_mem word entries with hnull | ⟨e, he, hvalue⟩
      · rw [hnull]
        exact ⟨.other nofun, .other nofun⟩
      · rw [← hvalue]
        exact hparts e he
    have htexts : ∀ v ∈ textsBefore entries ++ textsAfter entries, v.isWritable = true := by
      intro v hv
      simp only [textsBefore, textsAfter, List.mem_append, List.mem_cons, List.not_mem_nil,
        or_false] at hv
      rcases hv with (rfl | rfl) | hv | rfl | rfl
      · exact isWritable_get h "$ref"
      · exact isWritable_get h "format"
      · exact isWritable_of_mem_listOf? (isWritable_get h "required") hv
      · exact isWritable_get h "title"
      · exact isWritable_get h "description"
    exact ⟨.mapping htexts (hget "items").1 (hget "properties").2,
      .mapping (fun e he => (entriesWritable_iff.mp h e he).1) fun e he => (hparts e he).1⟩

theorem displayable_of_entriesWritable : ∀ entries : List (Scalar × Value),
    entriesWritable entries = true →
      ∀ e ∈ entries, Displayable e.2 ∧ PropertiesDisplayable e.2
  | [], _ => nofun
  | (key, value) :: rest, h => by
    rw [entriesWritable, Bool.and_eq_true, Bool.and_eq_true] at h
    exact List.forall_mem_cons.mpr
      ⟨displayable_of_isWritable value h.1.2, displayable_of_entriesWritable rest h.2⟩

end

end SchemaRecords

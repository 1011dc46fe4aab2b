import Mathlib
import SchemaRecords.Proofs.TypeName

/-!
# Schemas with properties in another order

* `Reordered` -- two schemas that differ only in the order of properties, of any number of schemas
  at any depth;
* `Reordered.record?_some`, `Reordered.record?_none` -- they lead to records through the same
  arrays, and these differ only in that order too;
* `TypeRef.ofSchemaIn_reordered` -- they have the same type, in every context.
-/

namespace SchemaRecords

namespace Schema

/-! ## 1. Another order -/

mutual

/-- Two schemas that differ only in the order of properties, at any depth. -/
inductive Reordered : Schema → Schema → Prop
  | node {k items items' ps mid ps'} (hitems : Option.Rel Reordered items items')
      (hparts : List.Forall₂ ReorderedPart ps mid) (horder : mid.Perm ps') :
      Reordered (.node k items ps) (.node k items' ps')

/-- Two properties of one key whose schemas do so. -/
inductive ReorderedPart : String × Schema → String × Schema → Prop
  | mk (key : String) {s t : Schema} (h : Reordered s t) : ReorderedPart (key, s) (key, t)

end

namespace Reordered

variable {s t : Schema}

theorem keywords_eq (h : Reordered s t) : s.keywords = t.keywords := by
  cases h
  rfl

theorem documentation?_eq (h : Reordered s t) : s.documentation? = t.documentation? := by
  rw [documentation?, documentation?, h.keywords_eq]

/-- The properties, first with other schemas and then in another order. -/
theorem properties (h : Reordered s t) :
    ∃ mid, List.Forall₂ ReorderedPart s.properties mid ∧ mid.Perm t.properties := by
  cases h with
  | node _ hparts horder => exact ⟨_, hparts, horder⟩

theorem isEmpty_properties_eq (h : Reordered s t) :
    s.properties.isEmpty = t.properties.isEmpty := by
  obtain ⟨mid, hparts, horder⟩ := h.properties
  rw [Bool.eq_iff_iff, List.isEmpty_iff_length_eq_zero, List.isEmpty_iff_length_eq_zero,
    hparts.length_eq, horder.length_eq]

/-! ## 2. Through arrays -/

/-- Either both are arrays of something, or neither is. -/
theorem item?_cases (h : Reordered s t) :
    (s.item? = none ∧ t.item? = none) ∨
      ∃ item item', s.item? = some item ∧ t.item? = some item' ∧ Reordered item item' := by
  cases h with
  | @node k items items' ps mid ps' hitems _ _ =>
    simp only [item?]
    split
    · cases hitems with
      | none => exact Or.inl ⟨rfl, rfl⟩
      | some hitem => exact Or.inr ⟨_, _, rfl, rfl, hitem⟩
    · exact Or.inl ⟨rfl, rfl⟩

/-- They come to the same through the same number of arrays. -/
theorem depth_core (h : Reordered s t) : s.depth = t.depth ∧ Reordered s.core t.core := by
  induction s using array_induction generalizing t with
  | leaf s hs =>
    rcases h.item?_cases with ⟨_, ht⟩ | ⟨item, _, hsome, _⟩
    · rw [depth_of_item?_none hs, depth_of_item?_none ht, core_of_item?_none hs,
        core_of_item?_none ht]
      exact ⟨rfl, h⟩
    · rw [hs] at hsome
      cases hsome
  | array s item hs ih =>
    rcases h.item?_cases with ⟨hnone, _⟩ | ⟨_, item', hsome, ht, hitem⟩
    · rw [hs] at hnone
      cases hnone
    · rw [hs] at hsome
      cases hsome
      obtain ⟨hdepth, hcore⟩ := ih hitem
      rw [depth_of_item?_some hs, depth_of_item?_some ht, core_of_item?_some hs,
        core_of_item?_some ht, hdepth]
      exact ⟨rfl, hcore⟩

theorem isRecord_eq (h : Reordered s t) : s.isRecord = t.isRecord := by
  unfold isRecord reference? title?
  rw [h.keywords_eq, h.isEmpty_properties_eq]

/-- Schemas that differ only in order lead to no record alike. -/
theorem record?_none (h : Reordered s t) (hs : s.record? = none) : t.record? = none := by
  rw [record?_eq_none] at hs ⊢
  rw [← h.depth_core.2.isRecord_eq]
  exact hs

/-- **Schemas that differ only in order lead to records that do so**, through the same arrays. -/
theorem record?_some (h : Reordered s t) {depth : Nat} {r : Schema}
    (hs : s.record? = some (depth, r)) :
    ∃ r', t.record? = some (depth, r') ∧ Reordered r r' := by
  obtain ⟨rfl, rfl, hr⟩ := record?_eq_some hs
  obtain ⟨hdepth, hcore⟩ := h.depth_core
  refine ⟨t.core, ?_, hcore⟩
  rw [hcore.isRecord_eq] at hr
  rw [record?, if_pos hr, hdepth]

end Reordered

end Schema

/-! ## 3. Types -/

open Schema

namespace TypeRef

/-- The type of what is no array of something hangs on its keywords, and on whether it has
    properties. -/
theorem ofSchemaIn_leaf {s t : Schema} (hs : s.item? = none) (ht : t.item? = none)
    (hk : s.keywords = t.keywords) (hp : s.properties.isEmpty = t.properties.isEmpty)
    (context : Option String) : ofSchemaIn context s = ofSchemaIn context t := by
  obtain ⟨k, items, ps⟩ := s
  obtain ⟨k', items', ps'⟩ := t
  obtain rfl : k = k' := hk
  simp only [Schema.properties] at hp
  unfold ofSchemaIn
  cases hr : present? k.ref with
  | some ref => rfl
  | none =>
    cases hkind : k.kind with
    | array =>
      obtain rfl : items = none := by simpa [item?, hr, hkind] using hs
      obtain rfl : items' = none := by simpa [item?, hr, hkind] using ht
      rfl
    | object => simp only [hp]
    | _ => rfl

/-- **The type of a schema does not hang on the order of properties.** -/
theorem ofSchemaIn_reordered {s t : Schema} (h : s.Reordered t) (context : Option String) :
    ofSchemaIn context s = ofSchemaIn context t := by
  induction s using array_induction generalizing t context with
  | leaf s hs =>
    rcases h.item?_cases with ⟨_, ht⟩ | ⟨item, _, hsome, _⟩
    · exact ofSchemaIn_leaf hs ht h.keywords_eq h.isEmpty_properties_eq context
    · rw [hs] at hsome
      cases hsome
  | array s item hs ih =>
    rcases h.item?_cases with ⟨hnone, _⟩ | ⟨_, item', hsome, ht, hitem⟩
    · rw [hs] at hnone
      cases hnone
    · rw [hs] at hsome
      cases hsome
      rw [ofSchemaIn_of_item? context hs, ofSchemaIn_of_item? context ht, ih hitem, h.keywords_eq]

end TypeRef

end SchemaRecords

import SchemaRecords.Proofs.Json.Reading
import SchemaRecords.Proofs.Yaml.Regular

/-!
# Keys of a document that was read

What the mappings of a document have in common, at any depth.

* `Throughout` -- every mapping in a value has some property of its entries;
* `IsJson.throughout` -- in a JSON text all keys are texts, each once;
* `KeysFit` -- regular keys, of which none but the double that is not a number is there twice;
  `throughout_ofYaml` -- **the keys of a YAML text are such**, whatever their kinds.
-/

namespace SchemaRecords.Document

variable {P Q : Entries → Prop} {entries : Entries}

/-! ## 1. Every mapping in a value -/

/-- Every mapping in a value has entries with a property, the value itself included. -/
inductive Throughout (P : Entries → Prop) : Value → Prop
  | scalar (s : Scalar) : Throughout P (.scalar s)
  | list {items : List Value} (parts : ∀ v ∈ items, Throughout P v) : Throughout P (.list items)
  | pair {first second : Value} (left : Throughout P first) (right : Throughout P second) :
      Throughout P (.pair first second)
  | mapping {entries : Entries} (here : P entries) (parts : ∀ e ∈ entries, Throughout P e.2) :
      Throughout P (.mapping entries)
  | set (items : List Scalar) : Throughout P (.set items)

namespace Throughout

theorem of_entries (hnil : P []) {v : Value} (h : Throughout P v) : P v.entries := by
  cases h with
  | mapping here parts => exact here
  | _ => exact hnil

theorem of_mem_entries {v : Value} (h : Throughout P v) {e : Scalar × Value}
    (he : e ∈ v.entries) : Throughout P e.2 := by
  cases h with
  | mapping here parts => exact parts e he
  | _ => exact absurd he List.not_mem_nil

/-- The value at a word of a mapping is in it. -/
theorem get (h : Throughout P (.mapping entries)) (word : String) :
    Throughout P (get word entries) := by
  rcases get_eq_null_or_mem word entries with hnull | ⟨e, he, hvalue⟩
  · rw [hnull]
    exact .scalar .null
  · exact hvalue ▸ h.of_mem_entries he

theorem mono (h : ∀ {entries}, P entries → Q entries) {v : Value} (hv : Throughout P v) :
    Throughout Q v := by
  induction hv with
  | scalar s => exact .scalar s
  | list _ ih => exact .list ih
  | pair _ _ left right => exact .pair left right
  | mapping here _ ih => exact .mapping (h here) ih
  | set items => exact .set items

end Throughout

/-! ## 2. JSON -/

mutual

/-- **In a JSON text all keys are texts, each once.** -/
theorem Value.IsJson.throughout : ∀ {v : Value}, v.IsJson → Throughout Named v
  | .scalar s, _ => .scalar s
  | .list _, h => .list (throughout_of_areJson h)
  | .pair _ _, h => h.elim
  | .mapping _, h => .mapping h.1 (throughout_of_entriesJson h.2.1)
  | .set _, h => h.elim

theorem throughout_of_areJson : ∀ {items : List Value}, AreJson items →
    ∀ v ∈ items, Throughout Named v
  | [], _ => nofun
  | _ :: _, h => List.forall_mem_cons.mpr ⟨h.1.throughout, throughout_of_areJson h.2⟩

theorem throughout_of_entriesJson : ∀ {entries : List (Scalar × Value)}, EntriesJson entries →
    ∀ e ∈ entries, Throughout Named e.2
  | [], _ => nofun
  | (_, _) :: _, h => List.forall_mem_cons.mpr ⟨h.1.throughout, throughout_of_entriesJson h.2⟩

end

/-- **The value of a JSON text has texts alone as keys**, each once. -/
theorem throughout_ofJson {text : String} {v : Value} (h : Value.ofJson text = .ok v) :
    Throughout Named v :=
  (Json.isJson_of_ofJson h).throughout

/-! ## 3. YAML -/

/-- Regular keys, of which only the double that is not a number may be there twice. -/
structure KeysFit (entries : Entries) : Prop where
  regular : ∀ k ∈ entries.map (·.1), k.IsRegular
  distinct : (entries.map (·.1)).Pairwise fun a b => a = b → a = .float .nan

theorem Named.keysFit (h : Named entries) : KeysFit entries where
  regular k hk := by
    obtain ⟨e, he, rfl⟩ := List.mem_map.mp hk
    obtain ⟨name, hname⟩ := h.texts e he
    rw [hname]
    trivial
  distinct := h.distinct.imp fun hne e => absurd e hne

theorem Moment.same_self (m : Moment) : m.same m = true := by
  unfold Moment.same
  split <;> simp

theorem Scalar.same_self (s : Scalar) : s.same s = true := by
  unfold Scalar.same
  cases s.whole? with
  | some n => exact beq_self_eq_true n
  | none =>
    cases s with
    | moment m => exact m.same_self
    | _ => exact beq_self_eq_true _

end SchemaRecords.Document

namespace SchemaRecords.Yaml

open Document

/-- Two constants that write one scalar are the same, unless it is not a number. -/
theorem value_eq_nan {a b : Constant} (h : a.same b = false) (hvalue : a.value = b.value) :
    a.value = .float .nan := by
  by_contra hne
  have hsame : a.same b = true := by
    rw [Constant.same, ← hvalue, Scalar.same_self, bne_iff_ne.mpr hne]
    rfl
  exact Bool.false_ne_true (h.symm.trans hsame)

/-- Assignments to regular keys leave such keys. -/
theorem keysFit_ofConstants {assignments : List (Constant × Value)}
    (h : ∀ e ∈ assignments, e.1.value.IsRegular) : KeysFit (ofConstants assignments) := by
  obtain ⟨hdistinct, hkeys⟩ := assigned_foldl h
  refine ⟨fun k hk => ?_, ?_⟩
  · obtain ⟨e, he, rfl⟩ := List.mem_map.mp hk
    obtain ⟨e', he', rfl⟩ := List.mem_map.mp he
    exact hkeys _ (List.mem_map_of_mem he')
  · rw [ofConstants, List.map_map]
    rw [List.pairwise_map] at hdistinct ⊢
    exact hdistinct.imp value_eq_nan

/-- Collections of values with such keys have them, too. -/
theorem Resolved.IsRegular.closed_throughout {r : Resolved} (h : r.IsRegular) :
    r.Closed (Throughout KeysFit) where
  null := .scalar .null
  scalar _ c _ := .scalar c.value
  list _ hitems := .list hitems
  pair _ _ hfirst hsecond := .pair hfirst hsecond
  mapping assignments hparts := by
    refine ⟨.mapping (keysFit_ofConstants fun e he => ?_) fun e he => ?_, .set _⟩
    · obtain ⟨⟨place, hplace⟩, _⟩ := hparts e he
      exact hplace ▸ h.constant place
    · obtain ⟨e', he', hvalue⟩ := List.mem_map.mp (mem_ofConstants he)
      exact hvalue ▸ (hparts e' he').2

/-- **In a YAML text no key is there twice**, but for the double that is not a number. -/
theorem throughout_ofYaml {text : String} {v : Value} (h : Value.ofYaml text = .ok v) :
    Throughout KeysFit v :=
  holds_ofYaml (.scalar .null) (fun _ hr => hr.closed_throughout) h

end SchemaRecords.Yaml

import Mathlib
import SchemaRecords.Document.Value

/-!
# Entries under names

Mappings whose keys are all texts, as those of a JSON text are.

* `bind_eq_ok`, `map_eq_ok`, `mapError_eq_ok` -- when steps that may fail have a result;
* `Named` -- all keys are texts, and no two are the same;
* `named_ofAssignments` -- assignments to names leave named entries, with the values assigned;
* `ofAssignments_of_named` -- named entries, taken as assignments, leave themselves.
-/

namespace SchemaRecords

/-- A sequence has a result exactly when both steps have one. -/
theorem bind_eq_ok {ε α β : Type} {x : Except ε α} {f : α → Except ε β} {b : β} :
    x >>= f = .ok b ↔ ∃ a, x = .ok a ∧ f a = .ok b := by
  cases x with
  | error e => exact ⟨nofun, fun ⟨_, h, _⟩ => nomatch h⟩
  | ok a => exact ⟨fun h => ⟨a, rfl, h⟩, fun ⟨_, ha, h⟩ => Except.ok.inj ha ▸ h⟩

/-- A result read in another way is a result exactly when it was one before. -/
theorem map_eq_ok {ε α β : Type} {x : Except ε α} {f : α → β} {b : β} :
    x.map f = .ok b ↔ ∃ a, x = .ok a ∧ f a = b := by
  cases x with
  | error e => exact ⟨nofun, fun ⟨_, h, _⟩ => nomatch h⟩
  | ok a => exact ⟨fun h => ⟨a, rfl, Except.ok.inj h⟩, fun ⟨_, ha, h⟩ => by cases ha; rw [← h]; rfl⟩

/-- A result with its faults read in another way is a result exactly when it was one before. -/
theorem mapError_eq_ok {ε δ α : Type} {x : Except ε α} {f : ε → δ} {a : α} :
    x.mapError f = .ok a ↔ x = .ok a := by
  cases x with
  | error e => exact ⟨nofun, nofun⟩
  | ok b => exact ⟨fun h => congrArg Except.ok (Except.ok.inj h), fun h => congrArg Except.ok
      (Except.ok.inj h)⟩

end SchemaRecords

namespace SchemaRecords.Document

/-! ## 1. Named entries -/

/-- All keys are texts. -/
def TextKeys (entries : Entries) : Prop := ∀ e ∈ entries, ∃ name, e.1 = .text name

/-- All keys are texts, and no two are the same. -/
structure Named (entries : Entries) : Prop where
  texts : TextKeys entries
  distinct : (entries.map (·.1)).Nodup

/-- No text is a key twice. -/
def DistinctTexts (entries : Entries) : Prop :=
  (entries.map (·.1)).Pairwise fun a b => ∀ name, a = .text name → b ≠ .text name

theorem Named.distinctTexts {entries : Entries} (h : Named entries) : DistinctTexts entries :=
  h.distinct.imp fun hne _ ha hb => hne (ha.trans hb.symm)

theorem named_nil : Named [] := ⟨nofun, List.nodup_nil⟩

/-- Setting a new name puts its entry at the end. -/
theorem put_of_not_mem {name : String} {value : Value} {entries : Entries}
    (htexts : TextKeys entries) (h : .text name ∉ entries.map (·.1)) :
    put (.text name) value entries = entries ++ [(.text name, value)] := by
  induction entries with
  | nil => rfl
  | cons e rest ih =>
    obtain ⟨k, v⟩ := e
    obtain ⟨other, rfl⟩ : ∃ other, k = .text other := htexts _ List.mem_cons_self
    rw [List.map_cons, List.mem_cons, not_or] at h
    have hne : (other == name) = false := beq_eq_false_iff_ne.mpr fun e => h.1 (by rw [e])
    rw [put, Scalar.same_text, hne, if_neg Bool.false_ne_true,
      ih (fun e he => htexts e (List.mem_cons_of_mem _ he)) h.2, List.cons_append]

/-- Setting a name that is there keeps the keys. -/
theorem keys_put_of_mem {name : String} (value : Value) {entries : Entries}
    (htexts : TextKeys entries) (h : .text name ∈ entries.map (·.1)) :
    (put (.text name) value entries).map (·.1) = entries.map (·.1) := by
  induction entries with
  | nil => cases h
  | cons e rest ih =>
    obtain ⟨k, v⟩ := e
    obtain ⟨other, rfl⟩ : ∃ other, k = .text other := htexts _ List.mem_cons_self
    rw [put, Scalar.same_text]
    by_cases hname : other = name
    · rw [beq_iff_eq.mpr hname, if_pos rfl]
      rfl
    · rw [beq_eq_false_iff_ne.mpr hname, if_neg Bool.false_ne_true, List.map_cons, List.map_cons,
        ih (fun e he => htexts e (List.mem_cons_of_mem _ he))]
      rw [List.map_cons, List.mem_cons] at h
      exact h.resolve_left fun e => hname (Scalar.text.inj e).symm

/-- An entry after setting a key was there before, or has the value that was set. -/
theorem mem_put {key : Scalar} {value : Value} {entries : Entries} {e : Scalar × Value}
    (h : e ∈ put key value entries) : e ∈ entries ∨ e.2 = value := by
  induction entries with
  | nil => exact Or.inr (by rw [List.mem_singleton.mp h])
  | cons first rest ih =>
    rw [put] at h
    split at h
    · rcases List.mem_cons.mp h with rfl | h
      · exact Or.inr rfl
      · exact Or.inl (List.mem_cons_of_mem _ h)
    · rcases List.mem_cons.mp h with rfl | h
      · exact Or.inl List.mem_cons_self
      · exact (ih h).imp_left (List.mem_cons_of_mem _)

theorem Named.put {entries : Entries} (h : Named entries) (name : String) (value : Value) :
    Named (put (.text name) value entries) := by
  by_cases hmem : .text name ∈ entries.map (·.1)
  · have hkeys := keys_put_of_mem value h.texts hmem
    refine ⟨fun e he => ?_, hkeys ▸ h.distinct⟩
    have hkey : e.1 ∈ entries.map (·.1) := hkeys ▸ List.mem_map_of_mem he
    obtain ⟨e', he', hsame⟩ := List.mem_map.mp hkey
    exact hsame ▸ h.texts e' he'
  · rw [put_of_not_mem h.texts hmem]
    refine ⟨fun e he => ?_, ?_⟩
    · rcases List.mem_append.mp he with he | he
      · exact h.texts e he
      · exact ⟨name, by rw [List.mem_singleton.mp he]⟩
    · rw [List.map_append, List.map_singleton]
      refine List.nodup_append.mpr ⟨h.distinct, List.nodup_singleton _, fun k hk k' hk' e => ?_⟩
      obtain rfl := List.mem_singleton.mp hk'
      subst e
      exact hmem hk

/-! ## 2. Assignments -/

/-- Assignments in front of others are made first. -/
theorem ofAssignments_append_singleton (assignments : Entries) (key : Scalar) (value : Value) :
    ofAssignments (assignments ++ [(key, value)]) = put key value (ofAssignments assignments) := by
  rw [ofAssignments, List.foldl_append]
  rfl

/-- **Assignments to names leave named entries**, and every value that is left was assigned. -/
theorem named_ofAssignments {assignments : Entries} (h : TextKeys assignments) :
    Named (ofAssignments assignments) ∧
      ∀ e ∈ ofAssignments assignments, e.2 ∈ assignments.map (·.2) := by
  induction assignments using List.reverseRecOn with
  | nil => exact ⟨named_nil, nofun⟩
  | append_singleton assignments last ih =>
    obtain ⟨key, value⟩ := last
    obtain ⟨name, rfl⟩ : ∃ name, key = .text name := h (key, value) (by simp)
    obtain ⟨hnamed, hvalues⟩ := ih fun e he => h e (List.mem_append_left _ he)
    rw [ofAssignments_append_singleton]
    refine ⟨hnamed.put name value, fun e he => ?_⟩
    rw [List.map_append, List.mem_append]
    rcases mem_put he with he | he
    · exact Or.inl (hvalues e he)
    · exact Or.inr (by rw [he]; exact List.mem_cons_self)

/-- The keys that assignments to names leave are those names. -/
theorem mem_keys_ofAssignments {assignments : Entries} (h : TextKeys assignments) (name : String) :
    .text name ∈ (ofAssignments assignments).map (·.1) ↔ .text name ∈ assignments.map (·.1) := by
  induction assignments using List.reverseRecOn with
  | nil => rfl
  | append_singleton assignments last ih =>
    obtain ⟨key, value⟩ := last
    obtain ⟨other, rfl⟩ : ∃ other, key = .text other := h (key, value) (by simp)
    have h' : TextKeys assignments := fun e he => h e (List.mem_append_left _ he)
    have htexts := (named_ofAssignments h').1.texts
    rw [ofAssignments_append_singleton, List.map_append, List.mem_append, ← ih h']
    by_cases hmem : .text other ∈ (ofAssignments assignments).map (·.1)
    · rw [keys_put_of_mem value htexts hmem, or_iff_left_of_imp]
      intro hlast
      rw [List.map_singleton, List.mem_singleton] at hlast
      exact hlast ▸ hmem
    · rw [put_of_not_mem htexts hmem, List.map_append, List.mem_append]

/-- **Named entries, taken as assignments, leave themselves.** -/
theorem ofAssignments_of_named {entries : Entries} (h : Named entries) :
    ofAssignments entries = entries := by
  obtain ⟨htexts, hdistinct⟩ := h
  induction entries using List.reverseRecOn with
  | nil => rfl
  | append_singleton entries last ih =>
    obtain ⟨key, value⟩ := last
    obtain ⟨name, rfl⟩ : ∃ name, key = .text name := htexts (key, value) (by simp)
    have htexts' : TextKeys entries := fun e he => htexts e (List.mem_append_left _ he)
    rw [List.map_append, List.nodup_append] at hdistinct
    rw [ofAssignments_append_singleton, ih htexts' hdistinct.1]
    exact put_of_not_mem htexts' fun hmem => hdistinct.2.2 _ hmem _ List.mem_cons_self rfl

/-! ## 3. The value at a word -/

theorem lookup_nil (word : String) : lookup word [] = none := rfl

theorem lookup_cons (word : String) (key : Scalar) (value : Value) (rest : Entries) :
    lookup word ((key, value) :: rest) =
      if key = .text word then some value else lookup word rest := by
  rw [lookup, List.find?_cons, lookup]
  by_cases h : key = .text word
  · simp only [beq_iff_eq.mpr h, if_pos h, Option.map_some]
  · simp only [beq_eq_false_iff_ne.mpr h, if_neg h]

theorem get_cons (word : String) (key : Scalar) (value : Value) (rest : Entries) :
    get word ((key, value) :: rest) = if key = .text word then value else get word rest := by
  rw [Document.get, lookup_cons]
  split <;> rfl

theorem lookup_put (word name : String) (value : Value) {entries : Entries}
    (htexts : TextKeys entries) :
    lookup word (put (.text name) value entries) =
      if name = word then some value else lookup word entries := by
  induction entries with
  | nil => simp only [put, lookup_cons, Scalar.text.injEq]
  | cons e rest ih =>
    obtain ⟨k, v⟩ := e
    obtain ⟨other, rfl⟩ : ∃ other, k = .text other := htexts _ List.mem_cons_self
    have ih := ih fun e he => htexts e (List.mem_cons_of_mem _ he)
    rw [put, Scalar.same_text]
    by_cases hname : other = name
    · subst hname
      by_cases h : other = word <;> simp [lookup_cons, h]
    · rw [beq_eq_false_iff_ne.mpr hname, if_neg Bool.false_ne_true, lookup_cons, lookup_cons, ih]
      by_cases h : other = word
      · have hne : name ≠ word := fun e => hname (h.trans e.symm)
        rw [if_pos (by rw [h]), if_neg hne, if_pos (by rw [h])]
      · rw [if_neg fun e => h (Scalar.text.inj e), if_neg fun e => h (Scalar.text.inj e)]

theorem lookup_append_singleton (word : String) (entries : Entries) (key : Scalar) (value : Value) :
    lookup word (entries ++ [(key, value)]) =
      (lookup word entries).or (if key = .text word then some value else none) := by
  induction entries with
  | nil => rw [List.nil_append, lookup_cons, lookup_nil, Option.none_or]
  | cons e rest ih =>
    rw [List.cons_append, lookup_cons, lookup_cons, ih]
    split
    · rw [Option.some_or]
    · rfl

/-- The value at a word is that of an entry, or nothing. -/
theorem get_eq_null_or_mem (word : String) (entries : Entries) :
    get word entries = .null ∨ ∃ e ∈ entries, e.2 = get word entries := by
  induction entries with
  | nil => exact Or.inl rfl
  | cons e rest ih =>
    obtain ⟨key, value⟩ := e
    rw [get_cons]
    split
    · exact Or.inr ⟨(key, value), List.mem_cons_self, rfl⟩
    · exact ih.imp_right fun ⟨e, he, h⟩ => ⟨e, List.mem_cons_of_mem _ he, h⟩

/-- A word that is no key has no value. -/
theorem lookup_eq_none {word : String} {entries : Entries}
    (h : .text word ∉ entries.map (·.1)) : lookup word entries = none := by
  rw [lookup, List.find?_eq_none.mpr, Option.map_none]
  intro e he hkey
  exact h (eq_of_beq hkey ▸ List.mem_map_of_mem he)

end SchemaRecords.Document

import SchemaRecords.Proofs.Json.RoundTrip

/-!
# Keys in JSON

A key of any kind becomes a name in JSON.

* `Scalar.keepsDisplay` -- the scalars that are displayed as their name once they went through JSON;
* `eq_text_of_jsonName` -- no key but a text gets the name of a word that begins with a letter of no
  constant, and only the same text;
* `get_asJson` -- **the value at such a word is what was left of it**, whatever the other keys are;
* `mem_keys_asJson` -- the keys of what is left of a mapping are the names of its keys.
-/

namespace SchemaRecords.Document

open Json Number

/-! ## 1. Names of keys -/

/-- Whether what is left of a scalar in JSON is displayed as the name that it has there. -/
def Scalar.keepsDisplay : Scalar → Bool
  | .text _ => true
  | .int _ => true
  | .float (.finite ..) => true
  | _ => false

/-- **The scalars whose name is the displayed text of what is left of them**, among those that can
    be keys in JSON. -/
theorem jsonName_eq_display_iff {k : Scalar} {name : String} (h : keyText k = .ok name) :
    k.jsonName = k.asJson.display ↔ k.keepsDisplay = true := by
  cases k with
  | text s => exact iff_of_true rfl rfl
  | null => exact iff_of_false (by decide) (by decide)
  | bool b => cases b <;> exact iff_of_false (by decide) (by decide)
  | int n =>
    refine iff_of_true ?_ rfl
    simp only [keyText, scalarText] at h
    split at h
    · rename_i hn
      simp only [Scalar.jsonName, scalarText, if_pos hn]
      rfl
    · cases h
  | float x =>
    cases x with
    | nan => exact iff_of_false (by decide) (by decide)
    | infinite negative => cases negative <;> exact iff_of_false (by decide) (by decide)
    | finite negative m e => exact iff_of_true rfl rfl
  | date d => cases h
  | moment m => cases h
  | bytes octets => cases h

/-- The entries of a mapping that is written have names and texts. -/
theorem entryTexts_ok {entries : Entries} {parts : List String}
    (h : entryTexts entries = .ok parts) :
    ∀ e ∈ entries, (∃ name, keyText e.1 = .ok name) ∧ ∃ text, e.2.toJson = .ok text := by
  induction entries generalizing parts with
  | nil => exact nofun
  | cons e rest ih =>
    rw [entryTexts] at h
    obtain ⟨name, hname, h⟩ := bind_eq_ok.mp h
    obtain ⟨text, htext, h⟩ := bind_eq_ok.mp h
    obtain ⟨more, hmore, _⟩ := bind_eq_ok.mp h
    exact List.forall_mem_cons.mpr ⟨⟨⟨name, hname⟩, text, htext⟩, ih hmore⟩

theorem entryTexts_of_toJson {entries : Entries} {text : String}
    (h : (Value.mapping entries).toJson = .ok text) : ∃ parts, entryTexts entries = .ok parts := by
  rw [Value.toJson] at h
  obtain ⟨parts, hparts, _⟩ := bind_eq_ok.mp h
  exact ⟨parts, hparts⟩

/-- The keys of a mapping in a mapping that is written have names. -/
theorem exists_keyText {entries inner : Entries} {text word : String}
    (h : (Value.mapping entries).toJson = .ok text) (hinner : get word entries = .mapping inner)
    {key : Scalar} (hkey : key ∈ inner.map (·.1)) : ∃ name, keyText key = .ok name := by
  obtain ⟨parts, hparts⟩ := entryTexts_of_toJson h
  rcases get_eq_null_or_mem word entries with hnull | ⟨e, he, hvalue⟩
  · cases hinner.symm.trans hnull
  · obtain ⟨_, text', htext'⟩ := entryTexts_ok hparts e he
    rw [hvalue, hinner] at htext'
    obtain ⟨parts', hparts'⟩ := entryTexts_of_toJson htext'
    obtain ⟨e', he', rfl⟩ := List.mem_map.mp hkey
    exact (entryTexts_ok hparts' e' he').1

/-- A word of characters below the halves that is not empty and begins like no number and no
    constant. -/
structure OwnWord (word : String) : Prop where
  begins : ∃ c cs, word.toList = c :: cs ∧ beginsPlain c = false
  below : ∀ c ∈ word.toList, c.toNat < 0xD800

theorem OwnWord.joined_eq {word : String} (h : OwnWord word) : joined word = word := by
  refine joined_eq_self_iff.mpr (Text.unsplit_of_forall fun c hc => ?_)
  have hbelow := h.below c hc
  rw [← Bool.not_eq_true, Text.isHalf_iff]
  omega

/-- **Only a text has such a word as its name**, and it is the word. -/
theorem eq_text_of_jsonName {k : Scalar} (hk : k.IsRegular) {word : String} (hword : OwnWord word)
    (h : k.jsonName = word) : k = .text word := by
  obtain ⟨c, cs, hcs, hc⟩ := hword.begins
  by_cases htext : ∃ s, k = .text s
  · obtain ⟨s, rfl⟩ := htext
    exact congrArg Scalar.text (eq_of_joined_eq hword.below h)
  · have hno : ∀ s, k ≠ .text s := fun s e => htext ⟨s, e⟩
    cases hscalar : scalarText k with
    | error e =>
      rw [Scalar.jsonName, hscalar] at h
      · obtain rfl : "" = word := h
        cases hcs
      · exact hno
    | ok text =>
      obtain rfl := (Scalar.jsonName_eq hno hscalar).symm.trans h
      obtain ⟨_, d, ds, hds, hd⟩ := readPlain_scalar hk hno hscalar stops_nil
      rw [hds] at hcs
      obtain ⟨rfl, _⟩ := List.cons.inj hcs
      exact absurd (hd.symm.trans hc) (by decide)

/-! ## 2. What is left of a mapping -/

theorem itemsAsJson_eq_map (items : List Value) : itemsAsJson items = items.map Value.asJson := by
  induction items with
  | nil => rfl
  | cons v rest ih => rw [itemsAsJson, ih, List.map_cons]

theorem entriesAsJson_eq_map (entries : Entries) :
    entriesAsJson entries = entries.map fun e => (.text e.1.jsonName, e.2.asJson) := by
  induction entries with
  | nil => rfl
  | cons e rest ih => rw [entriesAsJson, ih, List.map_cons]

theorem entriesAsJson_append_singleton (entries : Entries) (key : Scalar) (value : Value) :
    entriesAsJson (entries ++ [(key, value)]) =
      entriesAsJson entries ++ [(.text key.jsonName, value.asJson)] := by
  rw [entriesAsJson_eq_map, List.map_append, ← entriesAsJson_eq_map, List.map_singleton]

theorem textKeys_entriesAsJson (entries : Entries) : TextKeys (entriesAsJson entries) := by
  rw [entriesAsJson_eq_map]
  intro e he
  obtain ⟨e', _, rfl⟩ := List.mem_map.mp he
  exact ⟨_, rfl⟩

/-- The entry of a word keeps its place among the names of the keys. -/
theorem lookup_asJson {word : String} (hword : OwnWord word) {entries : Entries}
    (hdistinct : DistinctTexts entries) (hregular : ∀ e ∈ entries, e.1.IsRegular) :
    lookup word (ofAssignments (entriesAsJson entries)) =
      (lookup word entries).map Value.asJson := by
  induction entries using List.reverseRecOn with
  | nil => rfl
  | append_singleton entries last ih =>
    obtain ⟨key, value⟩ := last
    rw [DistinctTexts, List.map_append, List.pairwise_append] at hdistinct
    obtain ⟨hbefore, _, hlast⟩ := hdistinct
    have ih := ih hbefore fun e he => hregular e (List.mem_append_left _ he)
    have htexts := (named_ofAssignments (textKeys_entriesAsJson entries)).1.texts
    rw [entriesAsJson_append_singleton, ofAssignments_append_singleton, lookup_put _ _ _ htexts, ih,
      lookup_append_singleton]
    by_cases hkey : key = .text word
    · subst hkey
      have hnone : lookup word entries = none := lookup_eq_none fun hmem =>
        hlast _ hmem _ List.mem_cons_self word rfl rfl
      rw [Scalar.jsonName, if_pos hword.joined_eq, if_pos rfl, hnone]
      rfl
    · have hname : key.jsonName ≠ word := fun e =>
        hkey (eq_text_of_jsonName (hregular (key, value) (by simp)) hword e)
      rw [if_neg hname, if_neg hkey, Option.or_none]

/-- **The value at a word is what was left of it.** -/
theorem get_asJson {word : String} (hword : OwnWord word) {entries : Entries}
    (h : (Value.mapping entries).IsRegular) :
    get word (ofAssignments (entriesAsJson entries)) = (get word entries).asJson := by
  have hkeys : ∀ e ∈ entries, e.1.IsRegular := fun e he => (entriesRegular_iff.mp h.2 e he).1
  rw [get, get, lookup_asJson hword h.1 hkeys]
  cases lookup word entries <;> rfl

/-- **The keys of what is left of a mapping are the names of its keys.** -/
theorem mem_keys_asJson (entries : Entries) (name : String) :
    .text name ∈ (ofAssignments (entriesAsJson entries)).map (·.1) ↔
      name ∈ entries.map (·.1.jsonName) := by
  rw [mem_keys_ofAssignments (textKeys_entriesAsJson entries), entriesAsJson_eq_map, List.map_map,
    List.mem_map, List.mem_map]
  exact exists_congr fun e => and_congr_right fun _ => Scalar.text.injEq .. ▸ Iff.rfl

end SchemaRecords.Document

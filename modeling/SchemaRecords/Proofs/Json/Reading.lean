import SchemaRecords.Proofs.Json.RoundTrip

/-!
# Values that are read from JSON

* `Value.IsJson` -- the values that a JSON text can have: no pairs, no sets and no dates, named
  entries, whole numbers that can be written, regular doubles, texts without split pairs;
* `isJson_of_ofJson` -- **every value that is read is one of them**;
* `exists_toJson`, `IsJson.asJson` -- they can be written, and nothing of them is lost in JSON;
* `ofJson_ofJson` -- so **a value that was read can be written and read again**.
-/

namespace SchemaRecords.Document

open Json Number

/-! ## 1. Values of JSON texts -/

/-- The scalars that a JSON text can have. -/
def Scalar.IsJson : Scalar → Prop
  | .int n => (Scalar.int n).isWritable = true
  | .float x => x.IsRegular
  | .text s => Text.Unsplit s.toList
  | .date _ => False
  | .moment _ => False
  | .bytes _ => False
  | _ => True

/-- All keys are such scalars. -/
def KeysJson (entries : Entries) : Prop := ∀ key ∈ entries.map (·.1), key.IsJson

mutual

/-- The values that a JSON text can have. -/
def Value.IsJson : Value → Prop
  | .scalar s => s.IsJson
  | .list items => AreJson items
  | .pair .. => False
  | .mapping entries => Named entries ∧ EntriesJson entries ∧ KeysJson entries
  | .set _ => False

/-- Every item of a list is a value that a JSON text can have. -/
def AreJson : List Value → Prop
  | [] => True
  | v :: rest => v.IsJson ∧ AreJson rest

/-- Every entry has a value that a JSON text can have. -/
def EntriesJson : List (Scalar × Value) → Prop
  | [] => True
  | (_, v) :: rest => v.IsJson ∧ EntriesJson rest

end

theorem entriesJson_iff {entries : Entries} :
    EntriesJson entries ↔ ∀ v ∈ entries.map (·.2), v.IsJson := by
  induction entries with
  | nil => exact ⟨fun _ => nofun, fun _ => trivial⟩
  | cons e rest ih => rw [EntriesJson, ih, List.map_cons, List.forall_mem_cons]

theorem areJson_iff {items : List Value} : AreJson items ↔ ∀ v ∈ items, v.IsJson := by
  induction items with
  | nil => exact ⟨fun _ => nofun, fun _ => trivial⟩
  | cons v rest ih => rw [AreJson, ih, List.forall_mem_cons]

/-- The value at a word of such a mapping is such a value. -/
theorem isJson_get {entries : Entries} (h : (Value.mapping entries).IsJson) (word : String) :
    (get word entries).IsJson := by
  rcases get_eq_null_or_mem word entries with hnull | ⟨e, he, hvalue⟩
  · rw [hnull]
    trivial
  · rw [← hvalue]
    exact entriesJson_iff.mp h.2.1 _ (List.mem_map_of_mem he)

/-- Assignments of such values to names leave such a mapping. -/
theorem isJson_ofAssignments {assignments : Entries} (htexts : TextKeys assignments)
    (hvalues : EntriesJson assignments) (hkeys : KeysJson assignments) :
    (Value.mapping (ofAssignments assignments)).IsJson := by
  obtain ⟨hnamed, hleft⟩ := named_ofAssignments htexts
  refine ⟨hnamed, entriesJson_iff.mpr fun v hv => ?_, fun key hkey => ?_⟩
  · obtain ⟨e, he, rfl⟩ := List.mem_map.mp hv
    exact entriesJson_iff.mp hvalues _ (hleft e he)
  · obtain ⟨e, he, rfl⟩ := List.mem_map.mp hkey
    obtain ⟨name, hname⟩ := hnamed.texts e he
    rw [hname] at hkey ⊢
    exact hkeys _ ((mem_keys_ofAssignments htexts name).mp hkey)

/-! ## 2. They are written and lost nothing of -/

theorem Scalar.IsJson.isRegular {s : Scalar} (h : s.IsJson) : s.IsRegular := by
  cases s with
  | float x => exact h
  | _ => trivial

theorem Scalar.IsJson.isWritable {s : Scalar} (h : s.IsJson) : s.isWritable = true := by
  cases s with
  | int n => exact h
  | _ => rfl

theorem Scalar.IsJson.exists_text {s : Scalar} (h : s.IsJson) :
    ∃ text, scalarText s = .ok text := by
  cases s with
  | null => exact ⟨_, rfl⟩
  | bool b => cases b <;> exact ⟨_, rfl⟩
  | int n =>
    have hn : (Scalar.int n).isWritable = true := h
    exact ⟨toString n, by rw [scalarText, if_pos hn]⟩
  | float x => exact ⟨_, rfl⟩
  | text s => exact ⟨_, rfl⟩
  | date d => exact h.elim
  | moment m => exact h.elim
  | bytes octets => exact h.elim

theorem Scalar.IsJson.asJson {s : Scalar} (h : s.IsJson) : s.asJson = s := by
  cases s with
  | text s => exact congrArg Scalar.text (joined_eq_self_iff.mpr h)
  | _ => rfl

mutual

theorem Value.IsJson.isRegular : ∀ {v : Value}, v.IsJson → v.IsRegular
  | .scalar _, h => Scalar.IsJson.isRegular h
  | .list _, h => areRegular h
  | .pair _ _, h => h.elim
  | .mapping _, h => ⟨h.1.distinctTexts, entriesRegular h.1.texts h.2.1⟩
  | .set _, h => h.elim

theorem areRegular : ∀ {items : List Value}, AreJson items → AreRegular items
  | [], _ => trivial
  | _ :: _, h => ⟨h.1.isRegular, areRegular h.2⟩

theorem entriesRegular : ∀ {entries : List (Scalar × Value)}, TextKeys entries →
    EntriesJson entries → EntriesRegular entries
  | [], _, _ => trivial
  | (k, _) :: _, htexts, h => by
    obtain ⟨name, rfl⟩ : ∃ name, k = .text name := htexts _ List.mem_cons_self
    exact ⟨trivial, h.1.isRegular,
      entriesRegular (fun e he => htexts e (List.mem_cons_of_mem _ he)) h.2⟩

end

mutual

/-- **Every whole number in such a value can be written.** -/
theorem Value.IsJson.isWritable : ∀ {v : Value}, v.IsJson → v.isWritable = true
  | .scalar _, h => Scalar.IsJson.isWritable h
  | .list _, h => areWritable_of_areJson h
  | .pair _ _, h => h.elim
  | .mapping _, h => entriesWritable_of_entriesJson h.1.texts h.2.1
  | .set _, h => h.elim

theorem areWritable_of_areJson : ∀ {items : List Value}, AreJson items → areWritable items = true
  | [], _ => rfl
  | _ :: _, h => by
    rw [areWritable, h.1.isWritable, areWritable_of_areJson h.2]
    rfl

theorem entriesWritable_of_entriesJson : ∀ {entries : List (Scalar × Value)}, TextKeys entries →
    EntriesJson entries → entriesWritable entries = true
  | [], _, _ => rfl
  | (k, _) :: _, htexts, h => by
    obtain ⟨name, rfl⟩ : ∃ name, k = .text name := htexts _ List.mem_cons_self
    have hrest := entriesWritable_of_entriesJson
      (fun e he => htexts e (List.mem_cons_of_mem _ he)) h.2
    rw [entriesWritable, h.1.isWritable, hrest]
    rfl

end

mutual

/-- **Such a value can be written.** -/
theorem Value.IsJson.exists_toJson : ∀ {v : Value}, v.IsJson → ∃ text, v.toJson = .ok text
  | .scalar s, h => by
    rw [Value.toJson]
    exact Scalar.IsJson.exists_text h
  | .list items, h => by
    obtain ⟨parts, hparts⟩ := exists_itemTexts h
    exact ⟨_, by rw [Value.toJson]; exact bind_eq_ok.mpr ⟨parts, hparts, rfl⟩⟩
  | .pair _ _, h => h.elim
  | .mapping entries, h => by
    obtain ⟨parts, hparts⟩ := exists_entryTexts h.1.texts h.2.1
    exact ⟨_, by rw [Value.toJson]; exact bind_eq_ok.mpr ⟨parts, hparts, rfl⟩⟩
  | .set _, h => h.elim

theorem exists_itemTexts : ∀ {items : List Value}, AreJson items →
    ∃ parts, itemTexts items = .ok parts
  | [], _ => ⟨[], rfl⟩
  | _ :: _, h => by
    obtain ⟨text, htext⟩ := h.1.exists_toJson
    obtain ⟨more, hmore⟩ := exists_itemTexts h.2
    refine ⟨text :: more, ?_⟩
    rw [itemTexts]
    exact bind_eq_ok.mpr ⟨text, htext, bind_eq_ok.mpr ⟨more, hmore, rfl⟩⟩

theorem exists_entryTexts : ∀ {entries : List (Scalar × Value)}, TextKeys entries →
    EntriesJson entries → ∃ parts, entryTexts entries = .ok parts
  | [], _, _ => ⟨[], rfl⟩
  | (k, v) :: rest, htexts, h => by
    obtain ⟨name, rfl⟩ : ∃ name, k = .text name := htexts _ List.mem_cons_self
    obtain ⟨text, htext⟩ := h.1.exists_toJson
    obtain ⟨more, hmore⟩ := exists_entryTexts (fun e he => htexts e (List.mem_cons_of_mem _ he)) h.2
    refine ⟨(escaped name ++ ": " ++ text) :: more, ?_⟩
    rw [entryTexts]
    exact bind_eq_ok.mpr ⟨escaped name, rfl,
      bind_eq_ok.mpr ⟨text, htext, bind_eq_ok.mpr ⟨more, hmore, rfl⟩⟩⟩

end

mutual

/-- **Nothing of such a value is lost in JSON.** -/
theorem Value.IsJson.asJson : ∀ {v : Value}, v.IsJson → v.asJson = v
  | .scalar _, h => congrArg Value.scalar (Scalar.IsJson.asJson h)
  | .list items, h => by rw [Value.asJson, itemsAsJson_eq h]
  | .pair _ _, h => h.elim
  | .mapping entries, h => by
    rw [Value.asJson, entriesAsJson_eq h.1.texts h.2.1 h.2.2, ofAssignments_of_named h.1]
  | .set _, h => h.elim

theorem itemsAsJson_eq : ∀ {items : List Value}, AreJson items → itemsAsJson items = items
  | [], _ => rfl
  | _ :: _, h => by rw [itemsAsJson, h.1.asJson, itemsAsJson_eq h.2]

theorem entriesAsJson_eq : ∀ {entries : List (Scalar × Value)}, TextKeys entries →
    EntriesJson entries → KeysJson entries → entriesAsJson entries = entries
  | [], _, _, _ => rfl
  | (k, v) :: rest, htexts, h, hkeys => by
    obtain ⟨name, rfl⟩ : ∃ name, k = .text name := htexts _ List.mem_cons_self
    obtain ⟨hname, hkeys⟩ := List.forall_mem_cons.mp hkeys
    rw [entriesAsJson, h.1.asJson, Scalar.jsonName, joined_eq_self_iff.mpr hname,
      entriesAsJson_eq (fun e he => htexts e (List.mem_cons_of_mem _ he)) h.2 hkeys]

end

end SchemaRecords.Document

namespace SchemaRecords.Json

open Document Number

/-! ## 3. The readers -/

/-- A run of digits stands for a number with no more digits. -/
theorem decimalValue_lt {s : List Char} (h : ∀ c ∈ s, isDigit c = true) :
    decimalValue s < 10 ^ s.length := by
  induction s using List.reverseRecOn with
  | nil => decide
  | append_singleton s c ih =>
    have hs := ih fun d hd => h d (List.mem_append_left _ hd)
    have hc := h c (by simp)
    simp only [isDigit, Bool.and_eq_true, decide_eq_true_eq] at hc
    have hone : decimalValue [c] = c.toNat - 0x30 := by simp [decimalValue]
    rw [decimalValue_append, hone, List.length_append, List.length_singleton, pow_one, pow_succ]
    omega

theorem digits_readWhole (s : List Char) : ∀ c ∈ (readWhole s).1, isDigit c = true := by
  unfold readWhole
  split
  · intro c hc
    rw [List.mem_singleton.mp hc]
    decide
  · exact fun c hc => List.mem_takeWhile_imp hc

/-- A numeral stands for a number that a JSON text can have. -/
theorem isJson_numeral {negative : Bool} {whole fraction : List Char} {exponent : Option Int}
    (hwhole : ∀ c ∈ whole, isDigit c = true) {value : Scalar}
    (h : numeral negative whole fraction exponent = .ok value) : value.IsJson := by
  unfold numeral at h
  split at h
  · split at h
    · cases h
    · rename_i hlength
      obtain rfl := Except.ok.inj h
      rw [Scalar.IsJson, Scalar.isWritable, decide_eq_true_eq, firstUnwritable_eq]
      have habs : (Double.signed negative (decimalValue whole)).natAbs = decimalValue whole := by
        unfold Double.signed
        split <;> simp
      rw [habs]
      exact lt_of_lt_of_le (decimalValue_lt hwhole)
        (Nat.pow_le_pow_right (by norm_num) (not_lt.mp hlength))
  · obtain rfl := Except.ok.inj h
    exact regular_ofDecimal negative _ _

theorem isJson_readNumber? {s rest : List Char} {value : Scalar}
    (h : readNumber? s = some (.ok (value, rest))) : value.IsJson := by
  have hnumber {negative : Bool} {t fraction rest' : List Char} {exponent : Option Int}
      (h : (if (readWhole t).1.isEmpty then none
        else some ((numeral negative (readWhole t).1 fraction exponent).map fun n => (n, rest'))) =
          some (.ok (value, rest))) : value.IsJson := by
    split at h
    · cases h
    · obtain ⟨n, hn, e⟩ := map_eq_ok.mp (Option.some.inj h)
      obtain ⟨rfl, rfl⟩ := Prod.mk.inj e
      exact isJson_numeral (digits_readWhole t) hn
  unfold readNumber? at h
  split at h
  · exact hnumber h

theorem isJson_readConstant? {s rest : List Char} {value : Scalar}
    (h : readConstant? s = some (value, rest)) : value.IsJson := by
  obtain ⟨c, hc, hvalue⟩ := List.exists_of_findSome?_eq_some h
  obtain ⟨rest', _, e⟩ := Option.map_eq_some_iff.mp hvalue
  obtain ⟨rfl, rfl⟩ := Prod.mk.inj e
  have hall : ∀ c ∈ constants, c.2.IsJson := by simp [constants, Scalar.IsJson, Double.IsRegular]
  exact hall c hc

theorem isJson_readPlain {s rest : List Char} {v : Value} (h : readPlain s = .ok (v, rest)) :
    v.IsJson := by
  unfold readPlain at h
  split at h
  · rename_i value rest' hconstant
    obtain ⟨rfl, rfl⟩ := Prod.mk.inj (Except.ok.inj h)
    exact isJson_readConstant? hconstant
  · split at h
    · rename_i r hnumber
      obtain ⟨⟨value, rest'⟩, rfl, e⟩ := map_eq_ok.mp h
      obtain ⟨rfl, rfl⟩ := Prod.mk.inj e
      exact isJson_readNumber? hnumber
    · cases h

/-- No split pair is left in a text that is read, -/
theorem unsplit_readText {s rest : List Char} {text : String}
    (h : readText s = .ok (text, rest)) : Text.Unsplit text.toList := by
  obtain ⟨⟨units, _⟩, _, e⟩ := map_eq_ok.mp h
  obtain ⟨rfl, rfl⟩ := Prod.mk.inj e
  rw [String.toList_ofList]
  exact unsplit_joinUnits units

/-- nor in the name of an entry. -/
theorem unsplit_readName {s rest : List Char} {name : String}
    (h : readName s = .ok (name, rest)) : Text.Unsplit name.toList := by
  unfold readName at h
  split at h
  · obtain ⟨⟨text, _⟩, htext, h⟩ := bind_eq_ok.mp h
    simp only at h
    split at h
    · obtain ⟨rfl, rfl⟩ := Prod.mk.inj (Except.ok.inj h)
      exact unsplit_readText htext
    · cases h
  · cases h

/-- What the readers read in some steps can be read from a JSON text: a value, the entries of a
    mapping, and the items of a list. -/
structure ReadsJson (steps : Nat) : Prop where
  value : ∀ {s rest v}, readValue steps s = .ok (v, rest) → v.IsJson
  entries : ∀ {s rest entries}, readEntries steps s = .ok (entries, rest) →
    TextKeys entries ∧ EntriesJson entries ∧ KeysJson entries
  items : ∀ {s rest items}, readItems steps s = .ok (items, rest) → AreJson items

section

variable {steps : Nat} {s rest : List Char}

/-- One more step of a value. -/
theorem ReadsJson.readValue (ih : ReadsJson steps) {v : Value}
    (h : readValue (steps + 1) s = .ok (v, rest)) : v.IsJson := by
  unfold Json.readValue at h
  split at h
  · obtain ⟨_, htext, e⟩ := map_eq_ok.mp h
    obtain ⟨rfl, rfl⟩ := Prod.mk.inj e
    exact unsplit_readText htext
  · split at h
    · obtain ⟨rfl, rfl⟩ := Prod.mk.inj (Except.ok.inj h)
      exact ⟨named_nil, trivial, List.forall_mem_nil _⟩
    · obtain ⟨⟨entries, rest'⟩, hentries, e⟩ := map_eq_ok.mp h
      obtain ⟨rfl, rfl⟩ := Prod.mk.inj e
      obtain ⟨htexts, hvalues, hkeys⟩ := ih.entries hentries
      exact isJson_ofAssignments htexts hvalues hkeys
  · split at h
    · obtain ⟨rfl, rfl⟩ := Prod.mk.inj (Except.ok.inj h)
      trivial
    · obtain ⟨⟨items, rest'⟩, hitems, e⟩ := map_eq_ok.mp h
      obtain ⟨rfl, rfl⟩ := Prod.mk.inj e
      exact ih.items hitems
  · exact isJson_readPlain h

/-- One more step of the entries of a mapping. -/
theorem ReadsJson.readEntries (ih : ReadsJson steps) {entries : Entries}
    (h : readEntries (steps + 1) s = .ok (entries, rest)) :
    TextKeys entries ∧ EntriesJson entries ∧ KeysJson entries := by
  rw [Json.readEntries] at h
  obtain ⟨⟨name, _⟩, hname, h⟩ := bind_eq_ok.mp h
  obtain ⟨⟨value, _⟩, hvalue, h⟩ := bind_eq_ok.mp h
  have hfirst : ∃ word, Scalar.text name = .text word := ⟨name, rfl⟩
  have hunsplit : (Scalar.text name).IsJson := unsplit_readName hname
  simp only at h
  split at h
  · obtain ⟨rfl, rfl⟩ := Prod.mk.inj (Except.ok.inj h)
    exact ⟨List.forall_mem_singleton.mpr hfirst, ⟨ih.value hvalue, trivial⟩,
      List.forall_mem_singleton.mpr hunsplit⟩
  · obtain ⟨⟨more, _⟩, hmore, h⟩ := bind_eq_ok.mp h
    obtain ⟨rfl, rfl⟩ := Prod.mk.inj (Except.ok.inj h)
    obtain ⟨htexts, hvalues, hkeys⟩ := ih.entries hmore
    exact ⟨List.forall_mem_cons.mpr ⟨hfirst, htexts⟩, ⟨ih.value hvalue, hvalues⟩,
      List.forall_mem_cons.mpr ⟨hunsplit, hkeys⟩⟩
  · cases h

/-- One more step of the items of a list. -/
theorem ReadsJson.readItems (ih : ReadsJson steps) {items : List Value}
    (h : readItems (steps + 1) s = .ok (items, rest)) : AreJson items := by
  rw [Json.readItems] at h
  obtain ⟨⟨value, _⟩, hvalue, h⟩ := bind_eq_ok.mp h
  simp only at h
  split at h
  · obtain ⟨rfl, rfl⟩ := Prod.mk.inj (Except.ok.inj h)
    exact ⟨ih.value hvalue, trivial⟩
  · obtain ⟨⟨more, _⟩, hmore, h⟩ := bind_eq_ok.mp h
    obtain ⟨rfl, rfl⟩ := Prod.mk.inj (Except.ok.inj h)
    exact ⟨ih.value hvalue, ih.items hmore⟩
  · cases h

end

/-- **What the readers read can be read from a JSON text**, in any number of steps. -/
theorem readsJson (steps : Nat) : ReadsJson steps := by
  induction steps with
  | zero => exact ⟨nofun, nofun, nofun⟩
  | succ steps ih => exact ⟨ih.readValue, ih.readEntries, ih.readItems⟩

/-- **Every value that is read from a JSON text is one that a JSON text can have.** -/
theorem isJson_of_ofJson {text : String} {v : Value} (h : Value.ofJson text = .ok v) :
    v.IsJson := by
  unfold Value.ofJson readWholeText at h
  split at h
  · cases h
  · obtain ⟨⟨value, _⟩, hvalue, h⟩ := bind_eq_ok.mp h
    simp only at h
    split at h
    · obtain rfl := Except.ok.inj h
      exact (readsJson _).value hvalue
    · cases h

/-- A value that a JSON text can have is the value of its own text. -/
theorem ofJson_toJson_isJson {v : Value} (hv : v.IsJson) {text : String} (h : v.toJson = .ok text) :
    Value.ofJson text = .ok v := by
  rw [ofJson_toJson hv.isRegular h, hv.asJson]

/-- **A value that was read can be written, and is read again from what was written.** -/
theorem ofJson_ofJson {text : String} {v : Value} (h : Value.ofJson text = .ok v) :
    ∃ again, v.toJson = .ok again ∧ Value.ofJson again = .ok v := by
  have hv := isJson_of_ofJson h
  obtain ⟨again, hagain⟩ := hv.exists_toJson
  exact ⟨again, hagain, ofJson_toJson_isJson hv hagain⟩

end SchemaRecords.Json

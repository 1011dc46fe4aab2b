import SchemaRecords.Proofs.Document.Entries
import SchemaRecords.Proofs.Json.Number
import SchemaRecords.Proofs.Json.Text

/-!
# Values are read as they are written

* `Value.IsRegular` -- all doubles in a value are regular, and no text is a key twice;
* `Value.asJson` -- what is left of a value in JSON: pairs are lists, keys are names, and split
  pairs of halves are joined;
* `reads_toJson` -- the text of a value is read to its end as what is left of the value, with
  as many steps as the text has characters;
* `ofJson_toJson` -- **the JSON text of a value has what is left of it as its value**.
-/

namespace SchemaRecords.Document

open Json

/-! ## 1. Values in JSON -/

mutual

/-- All doubles in a value are regular, and no text is a key of a mapping twice. -/
def Value.IsRegular : Value → Prop
  | .scalar s => s.IsRegular
  | .list items => AreRegular items
  | .pair first second => first.IsRegular ∧ second.IsRegular
  | .mapping entries => DistinctTexts entries ∧ EntriesRegular entries
  | .set _ => True

/-- All items of a list are regular. -/
def AreRegular : List Value → Prop
  | [] => True
  | v :: rest => v.IsRegular ∧ AreRegular rest

/-- All keys and values of entries are regular. -/
def EntriesRegular : List (Scalar × Value) → Prop
  | [] => True
  | (k, v) :: rest => k.IsRegular ∧ v.IsRegular ∧ EntriesRegular rest

end

theorem areRegular_iff {items : List Value} :
    AreRegular items ↔ ∀ v ∈ items, v.IsRegular := by
  induction items with
  | nil => exact ⟨fun _ => nofun, fun _ => trivial⟩
  | cons v rest ih => rw [AreRegular, ih, List.forall_mem_cons]

theorem entriesRegular_iff {entries : Entries} :
    EntriesRegular entries ↔ ∀ e ∈ entries, e.1.IsRegular ∧ e.2.IsRegular := by
  induction entries with
  | nil => exact ⟨fun _ => nofun, fun _ => trivial⟩
  | cons e rest ih => rw [EntriesRegular, ih, List.forall_mem_cons, and_assoc]

/-- What is left of a scalar in JSON. -/
def Scalar.asJson : Scalar → Scalar
  | .text s => .text (joined s)
  | s => s

/-- The name that a key has in JSON: a text is its own, any other scalar its JSON text. -/
def Scalar.jsonName : Scalar → String
  | .text s => joined s
  | s => (scalarText s).toOption.getD ""

mutual

/-- What is left of a value in JSON. -/
def Value.asJson : Value → Value
  | .scalar s => .scalar s.asJson
  | .list items => .list (itemsAsJson items)
  | .pair first second => .list [first.asJson, second.asJson]
  | .mapping entries => .mapping (ofAssignments (entriesAsJson entries))
  | .set items => .set items

/-- What is left of the items of a list in JSON. -/
def itemsAsJson : List Value → List Value
  | [] => []
  | v :: rest => v.asJson :: itemsAsJson rest

/-- What is left of entries in JSON, each under the name of its key. -/
def entriesAsJson : List (Scalar × Value) → Entries
  | [] => []
  | (k, v) :: rest => (.text k.jsonName, v.asJson) :: entriesAsJson rest

end

theorem Scalar.asJson_of_ne_text {k : Scalar} (hno : ∀ s, k ≠ .text s) : k.asJson = k := by
  cases k with
  | text s => exact absurd rfl (hno s)
  | _ => rfl

/-- The name of a key that is no text is its JSON text. -/
theorem Scalar.jsonName_eq {k : Scalar} (hno : ∀ s, k ≠ .text s) {text : String}
    (h : scalarText k = .ok text) : k.jsonName = text := by
  rw [Scalar.jsonName, h]
  · rfl
  · exact hno

/-- A key that is no text becomes a name by its JSON text. -/
theorem keyText_of_ne_text {k : Scalar} (hno : ∀ s, k ≠ .text s) {name : String}
    (h : keyText k = .ok name) : ∃ text, scalarText k = .ok text ∧ name = escaped text := by
  cases k with
  | text s => exact absurd rfl (hno s)
  | date d => cases h
  | moment m => cases h
  | bytes octets => cases h
  | null | bool b | int n | float x =>
    simp only [keyText] at h
    obtain ⟨text, htext, rfl⟩ := map_eq_ok.mp h
    exact ⟨text, htext, rfl⟩

/-- **The text of a key stands between quotes**, and its name is what is read there. -/
theorem exists_escaped_of_keyText {k : Scalar} (hk : k.IsRegular) {name : String}
    (h : keyText k = .ok name) : ∃ text, name = escaped text ∧ joined text = k.jsonName := by
  by_cases htext : ∃ s, k = .text s
  · obtain ⟨s, rfl⟩ := htext
    exact ⟨s, (Except.ok.inj h).symm, rfl⟩
  · have hno : ∀ s, k ≠ .text s := fun s e => htext ⟨s, e⟩
    obtain ⟨text, hscalar, rfl⟩ := keyText_of_ne_text hno h
    refine ⟨text, rfl, ?_⟩
    rw [Scalar.jsonName_eq hno hscalar, joined_eq_self_iff]
    exact Text.unsplit_of_forall (isHalf_scalarText hk hno hscalar)

end SchemaRecords.Document

namespace SchemaRecords.Json

open Document Number

/-! ## 2. One step of the readers -/

/-- The characters that a value begins with. -/
def beginsValue (c : Char) : Bool := beginsPlain c || ['"', '[', '\x7b'].contains c

/-- The text begins like a value. -/
def Begins (s : List Char) : Prop := ∃ c cs, s = c :: cs ∧ beginsValue c = true

theorem Begins.append {s : List Char} (h : Begins s) (rest : List Char) : Begins (s ++ rest) := by
  obtain ⟨c, cs, rfl, hc⟩ := h
  exact ⟨c, cs ++ rest, rfl, hc⟩

theorem Begins.head_ne {s : List Char} (h : Begins s) {d : Char} (hd : beginsValue d = false)
    (rest : List Char) : s ≠ d :: rest := by
  obtain ⟨c, cs, rfl, hc⟩ := h
  intro e
  rw [(List.cons.inj e).1, hd] at hc
  exact Bool.false_ne_true hc

/-- No value begins with a blank. -/
theorem Begins.skipSpace_eq {s : List Char} (h : Begins s) : skipSpace s = s := by
  obtain ⟨c, cs, rfl, hc⟩ := h
  have hne {d : Char} (hd : beginsValue d = false) : c ≠ d := by
    rintro rfl
    exact Bool.false_ne_true (hd.symm.trans hc)
  have hspace : isSpace c = false := by
    simp only [isSpace, Bool.or_eq_false_iff, beq_eq_false_iff_ne]
    exact ⟨⟨⟨hne (by decide), hne (by decide)⟩, hne (by decide)⟩, hne (by decide)⟩
  rw [skipSpace, List.dropWhile_cons, hspace]
  rfl

theorem skipSpace_blank (s : List Char) : skipSpace (' ' :: s) = skipSpace s := rfl

theorem readValue_text (steps : Nat) (s : String) (rest : List Char) :
    readValue (steps + 1) ((escaped s).toList ++ rest) = .ok (.text (joined s), rest) := by
  rw [toList_escaped, List.cons_append, readValue, List.append_assoc, List.singleton_append,
    readText_escaped]
  rfl

theorem readValue_plain (steps : Nat) {c : Char} (hc : beginsPlain c = true) (cs : List Char) :
    readValue (steps + 1) (c :: cs) = readPlain (c :: cs) := by
  have hne {d : Char} (hd : beginsPlain d = false) (rest : List Char) : c :: cs ≠ d :: rest := by
    intro e
    rw [(List.cons.inj e).1, hd] at hc
    exact Bool.false_ne_true hc
  rw [readValue]
  · exact hne (by decide)
  · exact hne (by decide)
  · exact hne (by decide)

/-- A list that is not empty is read by its items. -/
theorem readValue_items (steps : Nat) {s : List Char} (h : Begins s) :
    readValue (steps + 1) ('[' :: s) =
      (readItems steps s).map fun (items, rest) => (.list items, rest) := by
  rw [readValue, h.skipSpace_eq]
  split
  · exact absurd rfl (h.head_ne (d := ']') (by decide) _)
  · rfl

/-- A mapping that is not empty is read by its entries. -/
theorem readValue_entries (steps : Nat) {s : List Char} (h : Begins s) :
    readValue (steps + 1) ('\x7b' :: s) =
      (readEntries steps s).map fun (entries, rest) =>
        (.mapping (ofAssignments entries), rest) := by
  rw [readValue, h.skipSpace_eq]
  split
  · exact absurd rfl (h.head_ne (d := '\x7d') (by decide) _)
  · rfl

theorem readItems_last {steps : Nat} {s rest : List Char} {v : Value}
    (h : readValue steps s = .ok (v, ']' :: rest)) :
    readItems (steps + 1) s = .ok ([v], rest) := by
  rw [readItems, h]
  rfl

theorem readItems_more {steps : Nat} {s more rest : List Char} {v : Value} {items : List Value}
    (h : readValue steps s = .ok (v, ',' :: ' ' :: more)) (hbegins : Begins more)
    (hmore : readItems steps more = .ok (items, rest)) :
    readItems (steps + 1) s = .ok (v :: items, rest) := by
  rw [readItems, h]
  show (readItems steps (skipSpace (' ' :: more)) >>= _) = _
  rw [skipSpace_blank, hbegins.skipSpace_eq, hmore]
  rfl

/-- The name of an entry, up to its value. -/
theorem readName_escaped (name : String) {s : List Char} (h : Begins s) :
    readName ((escaped name).toList ++ ':' :: ' ' :: s) = .ok (joined name, s) := by
  rw [toList_escaped, List.cons_append, List.append_assoc, List.singleton_append, readName,
    readText_escaped]
  show Except.ok (joined name, skipSpace (' ' :: s)) = _
  rw [skipSpace_blank, h.skipSpace_eq]

theorem readEntries_last {steps : Nat} {name : String} {s rest : List Char} {v : Value}
    (hbegins : Begins s) (h : readValue steps s = .ok (v, '\x7d' :: rest)) :
    readEntries (steps + 1) ((escaped name).toList ++ ':' :: ' ' :: s) =
      .ok ([(.text (joined name), v)], rest) := by
  rw [readEntries, readName_escaped name hbegins]
  show (readValue steps s >>= _) = _
  rw [h]
  rfl

theorem readEntries_more {steps : Nat} {name : String} {s more rest : List Char} {v : Value}
    {entries : Entries} (hbegins : Begins s) (h : readValue steps s = .ok (v, ',' :: ' ' :: more))
    (hbegins' : Begins more) (hmore : readEntries steps more = .ok (entries, rest)) :
    readEntries (steps + 1) ((escaped name).toList ++ ':' :: ' ' :: s) =
      .ok ((.text (joined name), v) :: entries, rest) := by
  rw [readEntries, readName_escaped name hbegins]
  show (readValue steps s >>= _) = _
  rw [h]
  show (readEntries steps (skipSpace (' ' :: more)) >>= _) = _
  rw [skipSpace_blank, hbegins'.skipSpace_eq, hmore]
  rfl

/-! ## 3. Texts of lists -/

theorem toList_listed_singleton (part : String) : (listed [part]).toList = part.toList := by
  rw [listed, String.toList_intercalate]
  simp

theorem toList_listed_cons (part : String) {parts : List String} (h : parts ≠ []) :
    (listed (part :: parts)).toList = part.toList ++ ',' :: ' ' :: (listed parts).toList := by
  rw [listed, listed, String.toList_intercalate, String.toList_intercalate, List.map_cons,
    List.intercalate_cons_of_ne_nil]
  · simp
  · simpa using h

/-- The text begins like a value, and with as many steps as it has characters it is read to its end
    as the value, whatever follows that stops a number. -/
structure ReadsAs (text : String) (v : Value) : Prop where
  begins : Begins text.toList
  reads : ∀ {steps : Nat} {rest : List Char}, text.toList.length ≤ steps → Stops rest →
    readValue steps (text.toList ++ rest) = .ok (v, rest)

/-- The text is a name, a colon and the text of a value. -/
def EntryReadsAs (part : String) (entry : Scalar × Value) : Prop :=
  ∃ name text, entry.1 = .text (joined name) ∧ part = escaped name ++ ": " ++ text ∧ ReadsAs text entry.2

theorem toList_entry (name text : String) :
    (escaped name ++ ": " ++ text).toList = (escaped name).toList ++ ':' :: ' ' :: text.toList := by
  rw [String.toList_append, String.toList_append, List.append_assoc]
  rfl

theorem EntryReadsAs.begins {part : String} {entry : Scalar × Value} (h : EntryReadsAs part entry) :
    Begins part.toList := by
  obtain ⟨name, text, _, rfl, _⟩ := h
  rw [toList_entry, toList_escaped]
  exact ⟨_, _, rfl, by decide⟩

theorem stops_comma (rest : List Char) : Stops (',' :: rest) := stops_cons (by decide) rest

theorem stops_bracket (rest : List Char) : Stops (']' :: rest) := stops_cons (by decide) rest

theorem stops_brace (rest : List Char) : Stops ('\x7d' :: rest) := stops_cons (by decide) rest

/-- **Items are read from their texts**, up to the closing bracket. -/
theorem readItems_listed {parts : List String} {items : List Value}
    (h : List.Forall₂ ReadsAs parts items) (hne : parts ≠ []) :
    Begins (listed parts).toList ∧ ∀ {steps : Nat} (rest : List Char),
      (listed parts).toList.length + 1 ≤ steps →
        readItems steps ((listed parts).toList ++ ']' :: rest) = .ok (items, rest) := by
  induction h with
  | nil => exact absurd rfl hne
  | @cons part v parts items hpart hparts ih =>
    rcases List.eq_nil_or_concat' parts with rfl | ⟨_, _, hcons⟩
    · obtain rfl : items = [] := List.forall₂_nil_left_iff.mp hparts
      rw [toList_listed_singleton]
      refine ⟨hpart.begins, fun {steps} rest hsteps => ?_⟩
      obtain ⟨k, rfl⟩ := Nat.exists_eq_add_of_le' hsteps
      rw [show k + (part.toList.length + 1) = k + part.toList.length + 1 from rfl]
      exact readItems_last (hpart.reads (Nat.le_add_left _ _) (stops_bracket rest))
    · have hne' : parts ≠ [] := by simp [hcons]
      obtain ⟨hbegins, hread⟩ := ih hne'
      rw [toList_listed_cons part hne']
      refine ⟨hpart.begins.append _, fun {steps} rest hsteps => ?_⟩
      simp only [List.length_append, List.length_cons] at hsteps
      obtain ⟨k, rfl⟩ := Nat.exists_eq_add_of_le' (show 1 ≤ steps by omega)
      rw [List.append_assoc]
      exact readItems_more (hpart.reads (by omega) (stops_comma _)) (hbegins.append _)
        (hread rest (by omega))

/-- **Entries are read from their texts**, up to the closing brace. -/
theorem readEntries_listed {parts : List String} {entries : Entries}
    (h : List.Forall₂ EntryReadsAs parts entries) (hne : parts ≠ []) :
    Begins (listed parts).toList ∧ ∀ {steps : Nat} (rest : List Char),
      (listed parts).toList.length + 1 ≤ steps →
        readEntries steps ((listed parts).toList ++ '\x7d' :: rest) = .ok (entries, rest) := by
  induction h with
  | nil => exact absurd rfl hne
  | @cons part entry parts entries hpart hparts ih =>
    obtain ⟨key, value⟩ := entry
    have hfirst := hpart.begins
    obtain ⟨name, text, hkey, rfl, hvalue⟩ := hpart
    obtain rfl : key = .text (joined name) := hkey
    rcases List.eq_nil_or_concat' parts with rfl | ⟨_, _, hcons⟩
    · obtain rfl : entries = [] := List.forall₂_nil_left_iff.mp hparts
      rw [toList_listed_singleton]
      refine ⟨hfirst, fun {steps} rest hsteps => ?_⟩
      rw [toList_entry] at hsteps ⊢
      simp only [List.length_append, List.length_cons] at hsteps
      obtain ⟨k, rfl⟩ := Nat.exists_eq_add_of_le' (show 1 ≤ steps by omega)
      rw [List.append_assoc]
      exact readEntries_last (hvalue.begins.append _)
        (hvalue.reads (by omega) (stops_brace rest))
    · have hne' : parts ≠ [] := by simp [hcons]
      obtain ⟨hbegins, hread⟩ := ih hne'
      rw [toList_listed_cons _ hne']
      refine ⟨hfirst.append _, fun {steps} rest hsteps => ?_⟩
      rw [toList_entry] at hsteps ⊢
      simp only [List.length_append, List.length_cons] at hsteps
      obtain ⟨k, rfl⟩ := Nat.exists_eq_add_of_le' (show 1 ≤ steps by omega)
      rw [List.append_assoc, List.append_assoc]
      exact readEntries_more (hvalue.begins.append _)
        (hvalue.reads (by omega) (stops_comma _)) (hbegins.append _) (hread rest (by omega))

/-! ## 4. Texts of values -/

theorem toList_bracketed (parts : List String) :
    ("[" ++ listed parts ++ "]").toList = '[' :: ((listed parts).toList ++ [']']) := by
  rw [String.toList_append, String.toList_append]
  rfl

theorem toList_braced (parts : List String) :
    ("\x7b" ++ listed parts ++ "\x7d").toList = '\x7b' :: ((listed parts).toList ++ ['\x7d']) := by
  rw [String.toList_append, String.toList_append]
  rfl

theorem reads_list {parts : List String} {items : List Value}
    (h : List.Forall₂ ReadsAs parts items) :
    ReadsAs ("[" ++ listed parts ++ "]") (.list items) := by
  refine ⟨⟨'[', _, toList_bracketed parts, by decide⟩, fun {steps rest} hsteps _ => ?_⟩
  rw [toList_bracketed] at hsteps ⊢
  simp only [List.length_append, List.length_cons] at hsteps
  obtain ⟨k, rfl⟩ := Nat.exists_eq_add_of_le' (show 1 ≤ steps by omega)
  rw [List.cons_append, List.append_assoc, List.singleton_append]
  rcases List.eq_nil_or_concat' parts with rfl | ⟨_, _, hcons⟩
  · obtain rfl : items = [] := List.forall₂_nil_left_iff.mp h
    rfl
  · obtain ⟨hbegins, hread⟩ := readItems_listed h (by simp [hcons])
    rw [readValue_items k (hbegins.append _), hread rest (by omega)]
    rfl

theorem reads_mapping {parts : List String} {entries : Entries}
    (h : List.Forall₂ EntryReadsAs parts entries) :
    ReadsAs ("\x7b" ++ listed parts ++ "\x7d") (.mapping (ofAssignments entries)) := by
  refine ⟨⟨'\x7b', _, toList_braced parts, by decide⟩, fun {steps rest} hsteps _ => ?_⟩
  rw [toList_braced] at hsteps ⊢
  simp only [List.length_append, List.length_cons] at hsteps
  obtain ⟨k, rfl⟩ := Nat.exists_eq_add_of_le' (show 1 ≤ steps by omega)
  rw [List.cons_append, List.append_assoc, List.singleton_append]
  rcases List.eq_nil_or_concat' parts with rfl | ⟨_, _, hcons⟩
  · obtain rfl : entries = [] := List.forall₂_nil_left_iff.mp h
    rfl
  · obtain ⟨hbegins, hread⟩ := readEntries_listed h (by simp [hcons])
    rw [readValue_entries k (hbegins.append _), hread rest (by omega)]
    rfl

theorem reads_scalar {s : Scalar} (hs : s.IsRegular) {text : String}
    (h : scalarText s = .ok text) : ReadsAs text (.scalar s.asJson) := by
  have hstep {steps : Nat} {c : Char} {cs : List Char} (hsteps : (c :: cs).length ≤ steps) :
      ∃ k, steps = k + 1 := Nat.exists_eq_add_of_le' (le_trans (by simp) hsteps)
  by_cases htext : ∃ t, s = .text t
  · obtain ⟨t, rfl⟩ := htext
    obtain rfl := Except.ok.inj h
    refine ⟨⟨'"', _, toList_escaped t, by decide⟩, fun {steps rest} hsteps _ => ?_⟩
    obtain ⟨k, rfl⟩ := hstep (toList_escaped t ▸ hsteps)
    exact readValue_text k t rest
  · have hno : ∀ t, s ≠ .text t := fun t ht => htext ⟨t, ht⟩
    rw [Scalar.asJson_of_ne_text hno]
    have hread {rest : List Char} (hrest : Stops rest) := readPlain_scalar hs hno h hrest
    obtain ⟨_, c, cs, hc, hplain⟩ := hread stops_nil
    refine ⟨⟨c, cs, hc, by rw [beginsValue, hplain, Bool.true_or]⟩, fun hsteps hrest => ?_⟩
    obtain ⟨k, rfl⟩ := hstep (hc ▸ hsteps)
    have hvalue := (hread hrest).1
    rw [hc, List.cons_append] at hvalue ⊢
    rw [readValue_plain k hplain, hvalue]

mutual

/-- **The text of a value is read as what is left of the value in JSON.** -/
theorem reads_toJson : ∀ {v : Value} {text : String}, v.IsRegular → v.toJson = .ok text →
    ReadsAs text v.asJson
  | .scalar s, text, hv, h => by
    rw [Value.toJson] at h
    exact reads_scalar hv h
  | .list items, text, hv, h => by
    rw [Value.toJson] at h
    obtain ⟨parts, hparts, h⟩ := bind_eq_ok.mp h
    obtain rfl := Except.ok.inj h
    exact reads_list (reads_itemTexts hv hparts)
  | .pair first second, text, hv, h => by
    rw [Value.toJson] at h
    obtain ⟨a, hfirst, h⟩ := bind_eq_ok.mp h
    obtain ⟨b, hsecond, h⟩ := bind_eq_ok.mp h
    obtain rfl := Except.ok.inj h
    exact reads_list (.cons (reads_toJson hv.1 hfirst) (.cons (reads_toJson hv.2 hsecond) .nil))
  | .mapping entries, text, hv, h => by
    rw [Value.toJson] at h
    obtain ⟨parts, hparts, h⟩ := bind_eq_ok.mp h
    obtain rfl := Except.ok.inj h
    exact reads_mapping (reads_entryTexts hv.2 hparts)
  | .set items, text, _, h => by
    rw [Value.toJson] at h
    cases h

theorem reads_itemTexts : ∀ {items : List Value} {parts : List String}, AreRegular items →
    itemTexts items = .ok parts → List.Forall₂ ReadsAs parts (itemsAsJson items)
  | [], parts, _, h => by
    obtain rfl := Except.ok.inj h
    exact .nil
  | v :: rest, parts, hv, h => by
    rw [itemTexts] at h
    obtain ⟨text, htext, h⟩ := bind_eq_ok.mp h
    obtain ⟨more, hmore, h⟩ := bind_eq_ok.mp h
    obtain rfl := Except.ok.inj h
    exact .cons (reads_toJson hv.1 htext) (reads_itemTexts hv.2 hmore)

theorem reads_entryTexts : ∀ {entries : List (Scalar × Value)} {parts : List String},
    EntriesRegular entries → entryTexts entries = .ok parts →
      List.Forall₂ EntryReadsAs parts (entriesAsJson entries)
  | [], parts, _, h => by
    obtain rfl := Except.ok.inj h
    exact .nil
  | (k, v) :: rest, parts, hv, h => by
    rw [entryTexts] at h
    obtain ⟨name, hname, h⟩ := bind_eq_ok.mp h
    obtain ⟨text, htext, h⟩ := bind_eq_ok.mp h
    obtain ⟨more, hmore, h⟩ := bind_eq_ok.mp h
    obtain rfl := Except.ok.inj h
    obtain ⟨key, rfl, hkey⟩ := exists_escaped_of_keyText hv.1 hname
    exact .cons ⟨key, text, congrArg Scalar.text hkey.symm, rfl, reads_toJson hv.2.1 htext⟩
      (reads_entryTexts hv.2.2 hmore)

end

/-- **The JSON text of a value has what is left of it as its value.** -/
theorem ofJson_toJson {v : Value} (hv : v.IsRegular) {text : String} (h : v.toJson = .ok text) :
    Value.ofJson text = .ok v.asJson := by
  obtain ⟨hbegins, hreads⟩ := reads_toJson hv h
  have hsteps : text.toList.length ≤ 2 * text.toList.length + 2 := by omega
  have hvalue := hreads hsteps stops_nil
  rw [List.append_nil] at hvalue
  rw [Value.ofJson, readWholeText]
  · rw [hbegins.skipSpace_eq, hvalue]
    rfl
  · intro rest
    exact hbegins.head_ne (by decide) rest

end SchemaRecords.Json

import SchemaRecords.Proofs.Record.Naming
import SchemaRecords.Proofs.Source.Lines

/-!
# Reading a source

The text of a source falls apart again into what it was made of.

* `append_inj_of_class`, `append_inj_of_first`, `append_inj_of_last`, `flatMap_cons_inj`,
  `unlines_inj` -- the places at which texts and lines can be cut apart;
* `summary_inj`, `parameterLine_inj`, `render_inj`, `body_inj` -- the parts of a declaration, one
  after the other;
* `declarationFacts` -- what can be read of a declaration; `WellNamed` and `Legible` -- the
  declarations of which it can be;
* `source_inj` -- **sources of such declarations with the same text** have the same namespace and
  the same facts.
-/

namespace SchemaRecords.Source

open Record Text

/-! ## 1. Cuts -/

section

variable {α : Type}

/-- What is put together from a part of a class and a rest that begins outside the class can be cut
    there again. -/
theorem append_inj_of_class {p : α → Bool} {a a' b b' : List α} (ha : ∀ x ∈ a, p x = true)
    (ha' : ∀ x ∈ a', p x = true) (hb : ∀ x ∈ b.head?, p x = false)
    (hb' : ∀ x ∈ b'.head?, p x = false) (h : a ++ b = a' ++ b') : a = a' ∧ b = b' := by
  have hcut : ∀ {a b : List α}, (∀ x ∈ a, p x = true) → (∀ x ∈ b.head?, p x = false) →
      (a ++ b).takeWhile p = a := by
    intro a b ha hb
    rw [List.takeWhile_append_of_pos ha]
    cases b with
    | nil => rw [List.takeWhile_nil, List.append_nil]
    | cons x rest => rw [List.takeWhile_cons, hb x rfl, if_neg Bool.false_ne_true, List.append_nil]
  have hfirst : a = a' := by rw [← hcut ha hb, h, hcut ha' hb']
  rw [hfirst] at h
  exact ⟨hfirst, List.append_cancel_left h⟩

/-- A text can be cut at the first of some characters. -/
theorem append_inj_of_first [DecidableEq α] {c : α} {a a' b b' : List α} (ha : c ∉ a)
    (ha' : c ∉ a') (h : a ++ c :: b = a' ++ c :: b') : a = a' ∧ b = b' := by
  have hne {l : List α} (hl : c ∉ l) : ∀ x ∈ l, decide (x ≠ c) = true :=
    fun x hx => decide_eq_true fun hxc => hl (hxc ▸ hx)
  have hhead {l : List α} : ∀ x ∈ (c :: l).head?, decide (x ≠ c) = false := by
    intro x hx
    obtain rfl : c = x := Option.some.inj hx
    simp
  obtain ⟨hfirst, hrest⟩ := append_inj_of_class (hne ha) (hne ha') hhead hhead h
  exact ⟨hfirst, (List.cons.inj hrest).2⟩

/-- And at the last. -/
theorem append_inj_of_last [DecidableEq α] {c : α} {a a' b b' : List α} (hb : c ∉ b)
    (hb' : c ∉ b') (h : a ++ c :: b = a' ++ c :: b') : a = a' ∧ b = b' := by
  have hreverse := congrArg List.reverse h
  simp only [List.reverse_append, List.reverse_cons, List.append_assoc,
    List.singleton_append] at hreverse
  obtain ⟨hlast, hfirst⟩ := append_inj_of_first (fun hc => hb (List.mem_reverse.mp hc))
    (fun hc => hb' (List.mem_reverse.mp hc)) hreverse
  exact ⟨List.reverse_inj.mp hfirst, List.reverse_inj.mp hlast⟩

/-- Blocks that begin with a mark, and have none inside, are cut at the marks. -/
theorem splitOnP_blocks {p : α → Bool} {c : α} (hc : p c = true) {blocks : List (List α)}
    (h : ∀ b ∈ blocks, ∀ x ∈ b, p x = false) {first : List α} (hfirst : ∀ x ∈ first, p x = false) :
    (first ++ blocks.flatMap (c :: ·)).splitOnP p = first :: blocks := by
  induction blocks generalizing first with
  | nil => rw [List.flatMap_nil, List.append_nil, List.splitOnP_eq_singleton hfirst]
  | cons b rest ih =>
    obtain ⟨hb, hrest⟩ := List.forall_mem_cons.mp h
    rw [List.flatMap_cons, List.cons_append, List.splitOnP_append_cons_of_forall_mem hfirst c hc,
      ih hrest hb]

theorem flatMap_cons_inj {p : α → Bool} {c : α} (hc : p c = true) {blocks blocks' : List (List α)}
    (h : ∀ b ∈ blocks, ∀ x ∈ b, p x = false) (h' : ∀ b ∈ blocks', ∀ x ∈ b, p x = false)
    (hsame : blocks.flatMap (c :: ·) = blocks'.flatMap (c :: ·)) : blocks = blocks' := by
  have hnone : ∀ x ∈ ([] : List α), p x = false := List.forall_mem_nil _
  have hcut := splitOnP_blocks hc h hnone
  rw [hsame, splitOnP_blocks hc h' hnone] at hcut
  exact (List.cons.inj hcut).2.symm

end

/-- Texts with a mark between them. -/
theorem toList_append_mark {c : Char} {mark : String} (hmark : mark.toList = [c])
    (front back : String) : (front ++ mark ++ back).toList = front.toList ++ c :: back.toList := by
  rw [String.toList_append, String.toList_append, hmark, List.append_assoc, List.singleton_append]

/-- Lines without line feeds can be read off their text. -/
theorem unlines_inj {lines lines' : List String} (h : ∀ line ∈ lines, Avoids ['\n'] line)
    (h' : ∀ line ∈ lines', Avoids ['\n'] line) (hsame : unlines lines = unlines lines') :
    lines = lines' := by
  have hcut : ∀ {lines : List String}, (∀ line ∈ lines, Avoids ['\n'] line) →
      (unlines lines).toList.splitOnP (· == '\n') = lines.map String.toList ++ [[]] := by
    intro lines hlines
    rw [splitOnP_unlines rfl]
    congr 1
    rw [← List.flatMap_singleton' (lines.map String.toList), List.flatMap_map]
    refine List.flatMap_congr fun line hline => List.splitOnP_eq_singleton fun c hc => ?_
    exact beq_eq_false_iff_ne.mpr fun hfeed => hlines line hline c hc (by rw [hfeed]; simp)
  have hlists := hcut h
  rw [hsame, hcut h'] at hlists
  have hmap := List.append_cancel_right hlists
  exact (List.map_injective_iff.mpr (fun _ _ => String.toList_inj.mp) hmap).symm

/-! ## 2. Documentation -/

theorem documentLine_inj {line line' : String} (h : documentLine line = documentLine line') :
    line = line' := (String.append_right_inj _).mp h

/-- The documentation of a declaration has its lines. -/
theorem summary_inj {lines lines' : List String} (h : summary lines = summary lines') :
    lines = lines' := by
  unfold summary at h
  cases lines with
  | nil =>
    cases lines' with
    | nil => rfl
    | cons line rest => cases h
  | cons line rest =>
    cases lines' with
    | nil => cases h
    | cons line' rest' =>
      have hinner := (List.cons.inj (List.append_cancel_right h)).2
      exact List.map_injective_iff.mpr (fun _ _ => documentLine_inj) hinner

/-- Whether a comment is the documentation of a field. -/
def isParameter : List Char → Bool
  | '/' :: '/' :: '/' :: ' ' :: '<' :: 'p' :: _ => true
  | _ => false

/-- No line of the documentation of a declaration looks like that of a field. -/
theorem isParameter_of_mem_summary {documentation : Option String} {line : String}
    (h : line ∈ summary (documentationLines documentation)) : isParameter line.toList = false := by
  unfold summary at h
  split at h
  · cases h
  · rcases List.mem_append.mp h with h | h
    · rcases List.mem_cons.mp h with rfl | h
      · simp [toList_documentLine, isParameter]
      · obtain ⟨cut, hcut, rfl⟩ := List.mem_map.mp h
        have hchars := documentationChar_of_mem hcut
        rw [toList_documentLine]
        unfold isParameter
        split
        · rename_i rest hrest
          simp only [List.cons.injEq, true_and] at hrest
          have hangle : '<' ∈ cut.toList := by
            rw [hrest]
            exact List.mem_cons_self
          exact absurd rfl (hchars '<' hangle).2.1
        · rfl
    · rw [List.mem_singleton.mp h]
      simp [toList_documentLine, isParameter]

/-- The documentation of a field with a name, on one line. -/
def parameterLine (name text : String) : String :=
  documentLine ("<param name=" ++ inQuotes name ++ ">" ++ text ++ "</param>")

theorem isParameter_parameterLine (name text : String) :
    isParameter (parameterLine name text).toList = true := by
  simp [parameterLine, toList_documentLine, isParameter]

theorem inQuotes_inj {text text' : String} (h : inQuotes text = inQuotes text') : text = text' :=
  (String.append_right_inj _).mp ((String.append_left_inj _).mp h)

/-- Where the text has no markup, the name and the text can be read off. -/
theorem parameterLine_inj {name name' text text' : String} (htext : '>' ∉ text.toList)
    (htext' : '>' ∉ text'.toList) (h : parameterLine name text = parameterLine name' text') :
    name = name' ∧ text = text' := by
  have hinner := (String.append_left_inj _).mp (documentLine_inj h)
  have hmark : ">".toList = ['>'] := rfl
  have hlists := congrArg String.toList hinner
  rw [toList_append_mark hmark, toList_append_mark hmark] at hlists
  obtain ⟨hname, hrest⟩ := append_inj_of_last htext htext' hlists
  exact ⟨inQuotes_inj ((String.append_right_inj _).mp (String.toList_inj.mp hname)),
    String.toList_inj.mp hrest⟩

/-! ## 3. Fields -/

theorem toList_inQuotes_append (text rest : String) :
    (inQuotes text ++ rest).toList =
      doubleQuote :: (text.toList ++ doubleQuote :: rest.toList) := by
  rw [String.toList_append, toList_inQuotes, List.append_assoc]
  rfl

/-- A field as a parameter of the record can be read where its name has no blank and its key no
    quote. -/
theorem render_inj {f g : FieldView} (hf : Avoids [' '] f.name) (hg : Avoids [' '] g.name)
    (hfkey : Avoids [doubleQuote] f.key) (hgkey : Avoids [doubleQuote] g.key)
    (h : f.render = g.render) : f.name = g.name ∧ f.key = g.key ∧ f.type = g.type := by
  have hblank : " ".toList = [' '] := rfl
  have hnot {c : Char} {text : String} (havoids : Avoids [c] text) : c ∉ text.toList :=
    fun hc => havoids c hc (List.mem_singleton_self c)
  have hlists := congrArg String.toList h
  unfold FieldView.render at hlists
  rw [toList_append_mark hblank, toList_append_mark hblank] at hlists
  obtain ⟨hfront, hname⟩ := append_inj_of_last (hnot hf) (hnot hg) hlists
  have hinner := String.toList_inj.mp hfront
  rw [String.append_assoc, String.append_assoc, String.append_assoc, String.append_assoc,
    String.append_right_inj] at hinner
  have hkeys := congrArg String.toList hinner
  rw [toList_inQuotes_append, toList_inQuotes_append] at hkeys
  obtain ⟨hkey, htype⟩ := append_inj_of_first (hnot hfkey) (hnot hgkey) (List.cons.inj hkeys).2
  exact ⟨String.toList_inj.mp hname, String.toList_inj.mp hkey,
    (String.append_right_inj _).mp (String.toList_inj.mp htype)⟩

theorem length_fieldLists (fields : List FieldView) :
    (fieldLists fields).length = fields.length := by
  induction fields with
  | nil => rfl
  | cons f rest ih =>
    cases rest with
    | nil => rfl
    | cons g others => rw [fieldLists_cons, List.length_cons, ih, List.length_cons (a := f)]

/-- The commas say nothing. -/
theorem fieldLists_inj {fields fields' : List FieldView}
    (h : fieldLists fields = fieldLists fields') :
    fields.map FieldView.render = fields'.map FieldView.render := by
  have hlength := congrArg List.length h
  rw [length_fieldLists, length_fieldLists] at hlength
  induction fields generalizing fields' with
  | nil =>
    obtain rfl := List.length_eq_zero_iff.mp hlength.symm
    rfl
  | cons f rest ih =>
    obtain ⟨f', rest', rfl⟩ := List.exists_cons_of_length_eq_add_one hlength.symm
    have hrest : rest.length = rest'.length := Nat.succ.inj hlength
    cases rest with
    | nil =>
      obtain rfl := List.length_eq_zero_iff.mp hrest.symm
      exact h
    | cons g others =>
      obtain ⟨g', others', rfl⟩ := List.exists_cons_of_length_eq_add_one hrest.symm
      rw [fieldLists_cons, fieldLists_cons] at h
      obtain ⟨hfirst, hothers⟩ := List.cons.inj h
      have hrender : f.render = f'.render := (String.append_left_inj _).mp hfirst
      rw [List.map_cons, hrender, ih hothers hrest, ← List.map_cons]

/-- The record itself has its name and its fields. -/
theorem body_inj {d d' : DeclarationView} (h : d.body = d'.body) :
    d.name = d'.name ∧ d.fields.map FieldView.render = d'.fields.map FieldView.render := by
  obtain ⟨name, lines, fields⟩ := d
  obtain ⟨name', lines', fields'⟩ := d'
  unfold DeclarationView.body at h
  cases fields with
  | nil =>
    cases fields' with
    | nil =>
      have hname := (String.append_left_inj _).mp (List.cons.inj h).1
      exact ⟨(String.append_right_inj _).mp hname, rfl⟩
    | cons f rest => simp at h
  | cons f rest =>
    cases fields' with
    | nil => simp at h
    | cons f' rest' =>
      obtain ⟨hopening, hrest⟩ := List.cons.inj h
      have hname := (String.append_left_inj _).mp hopening
      exact ⟨(String.append_right_inj _).mp hname,
        fieldLists_inj (List.append_cancel_right hrest)⟩

/-! ## 4. What can be read -/

/-- What can be read of a field: its name, its key, its type as it is written, and its documentation
    on one line. -/
structure FieldFacts where
  name : String
  key : String
  type : String
  documentation : String
  deriving DecidableEq, Repr

/-- What can be read of a declaration: its name, the lines of its documentation, and its fields in
    order. -/
structure DeclarationFacts where
  name : String
  lines : List String
  fields : List FieldFacts
  deriving DecidableEq, Repr

/-- The documentation of a field on one line. -/
def joinedLines (f : Field) : String := " ".intercalate (documentationLines f.documentation)

def fieldFacts (f : Field) : FieldFacts := ⟨f.name, f.key, f.type.render, joinedLines f⟩

def declarationFacts (d : Declaration) : DeclarationFacts :=
  ⟨d.name, documentationLines d.documentation, d.fields.map fieldFacts⟩

/-- Names of fields that are distinct and have no blank, as those of all declarations of a run. -/
structure WellNamed (d : Declaration) : Prop where
  distinct : (d.fields.map (·.name)).Nodup
  blankless : ∀ f ∈ d.fields, Avoids [' '] f.name

/-- A field whose name, type and key have no line feed, and whose key has no quote. -/
structure LegibleField (f : Field) : Prop where
  name : Avoids ['\n'] f.name
  type : Avoids ['\n'] f.type.render
  key : Avoids ['\n', doubleQuote] f.key

/-- A declaration whose name has no line feed, and whose fields are so. -/
structure Legible (d : Declaration) : Prop where
  name : Avoids ['\n'] d.name
  fields : ∀ f ∈ d.fields, LegibleField f

theorem Avoids.mono {banned fewer : List Char} {text : String} (h : Avoids banned text)
    (hsub : fewer ⊆ banned) : Avoids fewer text :=
  fun c hc hmem => h c hc (hsub hmem)

theorem LegibleField.key_no_feed {f : Field} (h : LegibleField f) : Avoids ['\n'] f.key :=
  h.key.mono (by simp)

theorem LegibleField.key_no_quote {f : Field} (h : LegibleField f) :
    Avoids [doubleQuote] f.key :=
  h.key.mono (by simp)

theorem joinedLines_no_markup (f : Field) : '>' ∉ (joinedLines f).toList := by
  intro hmem
  have hchars : ∀ c ∈ (joinedLines f).toList, c ≠ '>' :=
    forall_mem_joined (by decide) fun line hline c hc => (documentationChar_of_mem hline c hc).2.2
  exact hchars '>' hmem rfl

/-! ## 5. The documentation of fields -/

theorem parameter_of (f : Field) :
    (FieldView.of f).parameter =
      if (documentationLines f.documentation).isEmpty then []
      else [parameterLine f.name (joinedLines f)] := rfl

theorem parameter_of_empty {f : Field} (h : documentationLines f.documentation = []) :
    (FieldView.of f).parameter = [] := by
  rw [parameter_of, h]
  rfl

theorem parameter_of_ne_nil {f : Field} (h : documentationLines f.documentation ≠ []) :
    (FieldView.of f).parameter = [parameterLine f.name (joinedLines f)] := by
  rw [parameter_of, if_neg fun hempty => h (List.isEmpty_iff.mp hempty)]

/-- The documentation of a field is not among that of fields with other names. -/
theorem parameterLine_not_mem {f : Field} {fields : List Field}
    (hf : f.name ∉ fields.map (·.name)) :
    parameterLine f.name (joinedLines f) ∉
      (fields.map FieldView.of).flatMap FieldView.parameter := by
  intro hmem
  rw [List.flatMap_map] at hmem
  obtain ⟨g, hg, hline⟩ := List.mem_flatMap.mp hmem
  rw [parameter_of] at hline
  split at hline
  · cases hline
  · have hsame := List.mem_singleton.mp hline
    obtain ⟨hname, _⟩ :=
      parameterLine_inj (joinedLines_no_markup f) (joinedLines_no_markup g) hsame
    exact hf (List.mem_map.mpr ⟨g, hg, hname.symm⟩)

/-- Fields with the same names, none of them twice, and with the same documentation among them have
    the same documentation each. -/
theorem joinedLines_inj {fields fields' : List Field}
    (hnames : fields.map (·.name) = fields'.map (·.name)) (hnodup : (fields.map (·.name)).Nodup)
    (h : (fields.map FieldView.of).flatMap FieldView.parameter =
      (fields'.map FieldView.of).flatMap FieldView.parameter) :
    fields.map joinedLines = fields'.map joinedLines := by
  induction fields generalizing fields' with
  | nil =>
    obtain rfl := List.map_eq_nil_iff.mp hnames.symm
    rfl
  | cons f rest ih =>
    cases fields' with
    | nil => cases hnames
    | cons f' rest' =>
      obtain ⟨hname, hrest⟩ : f.name = f'.name ∧ rest.map (·.name) = rest'.map (·.name) :=
        List.cons.inj hnames
      obtain ⟨hfree, hnodup⟩ := List.nodup_cons.mp hnodup
      have hother : f'.name ∉ rest.map (·.name) := hname ▸ hfree
      rw [List.map_cons, List.map_cons, List.flatMap_cons, List.flatMap_cons] at h
      rw [List.map_cons, List.map_cons]
      -- where only one of the two has a comment, that comment is of a later field of the other
      by_cases hf : documentationLines f.documentation = []
      · by_cases hf' : documentationLines f'.documentation = []
        · rw [parameter_of_empty hf, parameter_of_empty hf', List.nil_append,
            List.nil_append] at h
          rw [ih hrest hnodup h, joinedLines, joinedLines, hf, hf']
        · rw [parameter_of_empty hf, parameter_of_ne_nil hf', List.nil_append] at h
          refine absurd ?_ (parameterLine_not_mem hother)
          rw [h]
          exact List.mem_cons_self
      · by_cases hf' : documentationLines f'.documentation = []
        · rw [parameter_of_ne_nil hf, parameter_of_empty hf', List.nil_append] at h
          refine absurd ?_ (parameterLine_not_mem (hrest ▸ hfree))
          rw [← h]
          exact List.mem_cons_self
        · rw [parameter_of_ne_nil hf, parameter_of_ne_nil hf'] at h
          obtain ⟨hline, hothers⟩ := List.cons.inj h
          obtain ⟨_, hjoined⟩ :=
            parameterLine_inj (joinedLines_no_markup f) (joinedLines_no_markup f') hline
          rw [ih hrest hnodup hothers, hjoined]

/-! ## 6. The lines of a record -/

/-- A line of the fields is one of them, perhaps with a comma. -/
theorem eq_of_mem_fieldLists {fields : List FieldView} {line : String}
    (h : line ∈ fieldLists fields) : ∃ f ∈ fields, line = f.render ∨ line = f.render ++ "," := by
  induction fields with
  | nil => cases h
  | cons f rest ih =>
    cases rest with
    | nil => exact ⟨f, List.mem_cons_self, Or.inl (List.mem_singleton.mp h)⟩
    | cons g others =>
      rw [fieldLists_cons] at h
      rcases List.mem_cons.mp h with rfl | h
      · exact ⟨f, List.mem_cons_self, Or.inr rfl⟩
      · obtain ⟨f', hf', hline⟩ := ih h
        exact ⟨f', List.mem_cons_of_mem f hf', hline⟩

/-- A line of a record opens it, is a field, or closes it. -/
theorem eq_of_mem_body {d : DeclarationView} {line : String} (h : line ∈ d.body) :
    (line = "public sealed record " ++ d.name ++ ";" ∨
      line = "public sealed record " ++ d.name ++ "(") ∨
    (∃ f ∈ d.fields, line = f.render ∨ line = f.render ++ ",") ∨ line = ");" := by
  unfold DeclarationView.body at h
  split at h
  · exact Or.inl (Or.inl (List.mem_singleton.mp h))
  · rcases List.mem_append.mp h with h | h
    · rcases List.mem_cons.mp h with rfl | h
      · exact Or.inl (Or.inr rfl)
      · exact Or.inr (Or.inl (eq_of_mem_fieldLists h))
    · exact Or.inr (Or.inr (List.mem_singleton.mp h))

theorem render_ne_empty (f : FieldView) : f.render ≠ "" := by
  have hattribute : "    [property: JsonPropertyName(" ≠ "" := by decide
  unfold FieldView.render
  rw [String.append_assoc, String.append_assoc, String.append_assoc, String.append_assoc]
  exact append_ne_empty hattribute _

/-- No line of a record is empty. -/
theorem ne_empty_of_mem_body {d : DeclarationView} {line : String} (h : line ∈ d.body) :
    line ≠ "" := by
  have hrecord : "public sealed record " ≠ "" := by decide
  rcases eq_of_mem_body h with (rfl | rfl) | ⟨f, _, rfl | rfl⟩ | rfl
  · exact append_ne_empty (append_ne_empty hrecord _) _
  · exact append_ne_empty (append_ne_empty hrecord _) _
  · exact render_ne_empty f
  · exact append_ne_empty (render_ne_empty f) _
  · decide

/-- A record does not begin with a comment. -/
theorem isComment_head_body (d : DeclarationView) :
    ∀ line ∈ d.body.head?, isComment line.toList = false := by
  intro line hline
  have hopening : line = "public sealed record " ++ d.name ++ ";" ∨
      line = "public sealed record " ++ d.name ++ "(" := by
    unfold DeclarationView.body at hline
    split at hline
    · exact Or.inl (Option.some.inj hline).symm
    · exact Or.inr (Option.some.inj hline).symm
  rcases hopening with rfl | rfl
  · rw [String.toList_append, String.toList_append]
    rfl
  · rw [String.toList_append, String.toList_append]
    rfl

/-- No field that is legible has a line feed. -/
theorem avoids_render {f : Field} (hf : LegibleField f) :
    Avoids ['\n'] (FieldView.of f).render := by
  have hattribute : Avoids ['\n'] "    [property: JsonPropertyName(" := by decide
  have hquote : Avoids ['\n'] "\"" := by decide
  have hend : Avoids ['\n'] ")] " := by decide
  have hblank : Avoids ['\n'] " " := by decide
  have hquoted : Avoids ['\n'] (inQuotes f.key) :=
    avoids_append.mpr ⟨avoids_append.mpr ⟨hquote, hf.key_no_feed⟩, hquote⟩
  have hfront := avoids_append.mpr ⟨avoids_append.mpr ⟨hattribute, hquoted⟩, hend⟩
  have htyped := avoids_append.mpr ⟨hfront, hf.type⟩
  rw [render_fieldView]
  exact avoids_append.mpr ⟨avoids_append.mpr ⟨htyped, hblank⟩, hf.name⟩

/-- Nor has any line of a legible record. -/
theorem avoids_of_mem_body {d : Declaration} (hd : Legible d) {line : String}
    (h : line ∈ (DeclarationView.of d).body) : Avoids ['\n'] line := by
  have hrecord : Avoids ['\n'] "public sealed record " := by decide
  have hopening : Avoids ['\n'] ("public sealed record " ++ d.name) :=
    avoids_append.mpr ⟨hrecord, hd.name⟩
  have hsemicolon : Avoids ['\n'] ";" := by decide
  have hopen : Avoids ['\n'] "(" := by decide
  have hcomma : Avoids ['\n'] "," := by decide
  have hfields : ∀ view ∈ (DeclarationView.of d).fields, Avoids ['\n'] view.render := by
    intro view hview
    obtain ⟨f, hf, rfl⟩ := List.mem_map.mp hview
    exact avoids_render (hd.fields f hf)
  rcases eq_of_mem_body h with (rfl | rfl) | ⟨view, hview, rfl | rfl⟩ | rfl
  · exact avoids_append.mpr ⟨hopening, hsemicolon⟩
  · exact avoids_append.mpr ⟨hopening, hopen⟩
  · exact hfields view hview
  · exact avoids_append.mpr ⟨hfields view hview, hcomma⟩
  · decide

/-! ## 7. Declarations -/

/-- The comments of a declaration. -/
def comments (d : Declaration) : List String :=
  summary (documentationLines d.documentation) ++
    (d.fields.map FieldView.of).flatMap FieldView.parameter

/-- The lines of a declaration after the empty one. -/
def block (d : Declaration) : List String := comments d ++ (DeclarationView.of d).body

theorem isComment_of_mem_comments {d : Declaration} {line : String} (h : line ∈ comments d) :
    isComment line.toList = true := by
  rcases List.mem_append.mp h with h | h
  · exact isComment_of_mem_summary h
  · obtain ⟨f, _, hline⟩ := List.mem_flatMap.mp h
    exact isComment_of_mem_parameter hline

theorem ne_empty_of_mem_block {d : Declaration} {line : String} (h : line ∈ block d) :
    line ≠ "" := by
  rcases List.mem_append.mp h with h | h
  · rintro rfl
    exact Bool.false_ne_true (isComment_of_mem_comments h)
  · exact ne_empty_of_mem_body h

theorem avoids_of_mem_block {d : Declaration} (hd : Legible d) {line : String}
    (h : line ∈ block d) : Avoids ['\n'] line := by
  have hbreak : ∀ c ∈ ['\n'], isLineBreak c = true := by simp [isLineBreak]
  rcases List.mem_append.mp h with h | h
  · rcases List.mem_append.mp h with h | h
    · exact avoids_of_mem_summary hbreak h
    · obtain ⟨view, hview, hline⟩ := List.mem_flatMap.mp h
      obtain ⟨f, hf, rfl⟩ := List.mem_map.mp hview
      exact avoids_of_mem_parameter hbreak (hd.fields f hf).name hline
  · exact avoids_of_mem_body hd h

/-- What is read of each member of a list can be read of the list. -/
theorem map_inj_of {α β γ : Type} {P : α → Prop} {f : α → β} {g : α → γ}
    (hinj : ∀ a b, P a → P b → f a = f b → g a = g b) {l l' : List α} (hl : ∀ a ∈ l, P a)
    (hl' : ∀ a ∈ l', P a) (h : l.map f = l'.map f) : l.map g = l'.map g := by
  induction l generalizing l' with
  | nil =>
    obtain rfl := List.map_eq_nil_iff.mp h.symm
    rfl
  | cons a rest ih =>
    cases l' with
    | nil => cases h
    | cons b rest' =>
      obtain ⟨hfirst, hrest⟩ := List.cons.inj h
      obtain ⟨ha, hothers⟩ := List.forall_mem_cons.mp hl
      obtain ⟨hb, hothers'⟩ := List.forall_mem_cons.mp hl'
      rw [List.map_cons, List.map_cons, hinj a b ha hb hfirst, ih hothers hothers' hrest]

/-- The documentation of fields begins with that of a field. -/
theorem isParameter_head_parameters (fields : List Field) :
    ∀ line ∈ ((fields.map FieldView.of).flatMap FieldView.parameter).head?,
      isParameter line.toList = true := by
  intro line hline
  obtain ⟨view, hview, hmem⟩ := List.mem_flatMap.mp (List.mem_of_head? hline)
  obtain ⟨f, _, rfl⟩ := List.mem_map.mp hview
  rw [parameter_of] at hmem
  split at hmem
  · cases hmem
  · rw [List.mem_singleton.mp hmem]
    exact isParameter_parameterLine _ _

/-- What is written of a field in the record. -/
def written (f : Field) : String × String × String := (f.name, f.key, f.type.render)

/-- The facts of fields are what is written of them, with their documentation. -/
theorem map_fieldFacts (fields : List Field) :
    fields.map fieldFacts =
      ((fields.map written).zip (fields.map joinedLines)).map fun r =>
        ⟨r.1.1, r.1.2.1, r.1.2.2, r.2⟩ := by
  induction fields with
  | nil => rfl
  | cons f rest ih =>
    rw [List.map_cons, ih]
    rfl

/-- The comments are those of the declaration itself, and those of its fields. -/
theorem comments_inj {d d' : Declaration} (h : comments d = comments d') :
    documentationLines d.documentation = documentationLines d'.documentation ∧
      (d.fields.map FieldView.of).flatMap FieldView.parameter =
        (d'.fields.map FieldView.of).flatMap FieldView.parameter := by
  have hown {d : Declaration} : ∀ line ∈ summary (documentationLines d.documentation),
      (!isParameter line.toList) = true := by
    intro line hline
    rw [isParameter_of_mem_summary hline]
    rfl
  have hfields {d : Declaration} :
      ∀ line ∈ ((d.fields.map FieldView.of).flatMap FieldView.parameter).head?,
        (!isParameter line.toList) = false := by
    intro line hline
    rw [isParameter_head_parameters d.fields line hline]
    rfl
  obtain ⟨hsummary, hparameters⟩ :=
    append_inj_of_class (p := fun line => !isParameter line.toList) hown hown hfields hfields h
  exact ⟨summary_inj hsummary, hparameters⟩

/-- What is written of fields can be read off the record, where no name has a blank and no key a
    quote. -/
theorem written_inj {fields fields' : List Field}
    (h : ∀ f ∈ fields, Avoids [' '] f.name ∧ Avoids [doubleQuote] f.key)
    (h' : ∀ f ∈ fields', Avoids [' '] f.name ∧ Avoids [doubleQuote] f.key)
    (hrenders : (fields.map FieldView.of).map FieldView.render =
      (fields'.map FieldView.of).map FieldView.render) :
    fields.map written = fields'.map written := by
  rw [List.map_map, List.map_map] at hrenders
  refine map_inj_of (fun f g hf hg hsame => ?_) h h' hrenders
  obtain ⟨hname, hkey, htype⟩ :=
    render_inj (f := .of f) (g := .of g) hf.1 hg.1 hf.2 hg.2 hsame
  exact Prod.ext hname (Prod.ext hkey htype)

theorem names_eq_of_written {fields fields' : List Field}
    (h : fields.map written = fields'.map written) :
    fields.map (·.name) = fields'.map (·.name) := by
  have hfirst := congrArg (List.map Prod.fst) h
  rw [List.map_map, List.map_map] at hfirst
  exact hfirst

/-- The lines of a declaration have its facts. -/
theorem block_inj {d d' : Declaration} (hd : WellNamed d ∧ Legible d)
    (hd' : WellNamed d' ∧ Legible d') (h : block d = block d') :
    declarationFacts d = declarationFacts d' := by
  obtain ⟨⟨hdistinct, hblankless⟩, hlegible⟩ := hd
  obtain ⟨⟨_, hblankless'⟩, hlegible'⟩ := hd'
  obtain ⟨hcomments, hbody⟩ := append_inj_of_class (p := fun line => isComment line.toList)
    (fun _ => isComment_of_mem_comments) (fun _ => isComment_of_mem_comments)
    (isComment_head_body _) (isComment_head_body _) h
  obtain ⟨hlines, hparameters⟩ := comments_inj hcomments
  obtain ⟨hname, hrenders⟩ : d.name = d'.name ∧ _ := body_inj hbody
  have hwritten : d.fields.map written = d'.fields.map written :=
    written_inj (fun f hf => ⟨hblankless f hf, (hlegible.fields f hf).key_no_quote⟩)
      (fun f hf => ⟨hblankless' f hf, (hlegible'.fields f hf).key_no_quote⟩) hrenders
  -- a comment of a field tells whose it is only by the name, so the names come first
  have hjoined := joinedLines_inj (names_eq_of_written hwritten) hdistinct hparameters
  have hfacts : d.fields.map fieldFacts = d'.fields.map fieldFacts := by
    rw [map_fieldFacts, map_fieldFacts, hwritten, hjoined]
  unfold declarationFacts
  rw [hname, hlines, hfacts]

/-! ## 8. Sources -/

/-- The lines of a header before that of the namespace. -/
def imports : List String :=
  ["// <auto-generated>",
    "// Generated by dtogen. Do not edit by hand.",
    "// </auto-generated>",
    "",
    "using System;",
    "using System.Collections.Generic;",
    "using System.Text.Json.Serialization;",
    ""]

theorem header_eq (space : String) : header space = imports ++ ["namespace " ++ space ++ ";"] := rfl

theorem header_inj {space space' : String} (h : header space = header space') : space = space' := by
  rw [header_eq, header_eq] at h
  have hline := (List.cons.inj (List.append_cancel_left h)).1
  exact (String.append_right_inj _).mp ((String.append_left_inj _).mp hline)

theorem imports_avoid : (imports.all fun line => decide (Avoids ['\n'] line)) = true := by
  decide

theorem avoids_of_mem_header {space : String} (hspace : Avoids ['\n'] space) {line : String}
    (h : line ∈ header space) : Avoids ['\n'] line := by
  have hnamespace : Avoids ['\n'] "namespace " := by decide
  have hend : Avoids ['\n'] ";" := by decide
  rw [header_eq] at h
  rcases List.mem_append.mp h with h | h
  · exact of_decide_eq_true (List.all_eq_true.mp imports_avoid line h)
  · rw [List.mem_singleton.mp h]
    exact avoids_append.mpr ⟨avoids_append.mpr ⟨hnamespace, hspace⟩, hend⟩

/-- The lines of a source: the header, and each declaration behind an empty line. -/
theorem lines_eq (space : String) (declarations : List Declaration) :
    (View.ofDeclarations space declarations).lines =
      header space ++ (declarations.map block).flatMap ("" :: ·) := by
  unfold View.lines View.ofDeclarations
  rw [List.flatMap_map, List.flatMap_map]
  rfl

theorem avoids_of_mem_lines {space : String} (hspace : Avoids ['\n'] space)
    {declarations : List Declaration} (h : ∀ d ∈ declarations, Legible d) {line : String}
    (hline : line ∈ (View.ofDeclarations space declarations).lines) : Avoids ['\n'] line := by
  rw [lines_eq] at hline
  rcases List.mem_append.mp hline with hline | hline
  · exact avoids_of_mem_header hspace hline
  · obtain ⟨b, hb, hline⟩ := List.mem_flatMap.mp hline
    obtain ⟨d, hd, rfl⟩ := List.mem_map.mp hb
    rcases List.mem_cons.mp hline with rfl | hline
    · decide +kernel
    · exact avoids_of_mem_block (h d hd) hline

/-- **Sources with the same text** have the same namespace and the same facts. -/
theorem source_inj {space space' : String} {declarations declarations' : List Declaration}
    (hspace : Avoids ['\n'] space) (hspace' : Avoids ['\n'] space')
    (hd : ∀ d ∈ declarations, WellNamed d ∧ Legible d)
    (hd' : ∀ d ∈ declarations', WellNamed d ∧ Legible d)
    (h : Source.render space declarations = Source.render space' declarations') :
    space = space' ∧ declarations.map declarationFacts = declarations'.map declarationFacts := by
  have hlines := unlines_inj
    (fun _ => avoids_of_mem_lines hspace fun d hmem => (hd d hmem).2)
    (fun _ => avoids_of_mem_lines hspace' fun d hmem => (hd' d hmem).2) h
  rw [lines_eq, lines_eq] at hlines
  obtain ⟨hheader, hblocks⟩ := List.append_inj hlines rfl
  have hfilled : ∀ {declarations : List Declaration}, ∀ b ∈ declarations.map block, ∀ line ∈ b,
      (line == "") = false := by
    intro declarations b hb line hline
    obtain ⟨d, _, rfl⟩ := List.mem_map.mp hb
    exact beq_eq_false_iff_ne.mpr (ne_empty_of_mem_block hline)
  have hmaps := flatMap_cons_inj (p := (· == "")) rfl hfilled hfilled hblocks
  exact ⟨header_inj hheader, map_inj_of (fun _ _ => block_inj) hd hd' hmaps⟩

end SchemaRecords.Source

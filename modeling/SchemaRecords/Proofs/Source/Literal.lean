import SchemaRecords.Generate
import SchemaRecords.Text.Hex
import SchemaRecords.Proofs.Record.ClosedForm
import SchemaRecords.Proofs.Text.Units

/-!
# Keys as string literals of the source

In a source the key of a field stands between quotes, as it is. Whether that is a literal for the
key depends on the key.

* `Part`, `Inside`, `Denotes` -- the regular string literals of the target language, with their
  escapes, and the units that they stand for;
* `denotes_inQuotes_iff` -- a text between quotes is a literal for that text exactly if it is
  plain: it has no quote, no backslash and no line end;
* `keys_survive_iff` -- in every source each field stands with its key between quotes, so its key
  survives exactly if it is plain;
* `quoted_key_lost` -- and a key with a quote does not.
-/

namespace SchemaRecords.Source

open Text

/-! ## 1. Literals -/

/-- The characters that end a line of the target language. -/
def lineEnds : List Char := ['\r', '\n', '\u0085', '\u2028', '\u2029']

/-- The characters that stand for themselves inside a literal. -/
def isPlain (c : Char) : Bool := c != doubleQuote && c != '\\' && !lineEnds.contains c

/-- The escapes of one letter, each with the unit it stands for. -/
def letterEscapes : List (Char × Nat) :=
  [(apostrophe, 0x27), (doubleQuote, 0x22), ('\\', 0x5C), ('0', 0x0), ('a', 0x7), ('b', 0x8),
    ('f', 0xC), ('n', 0xA), ('r', 0xD), ('t', 0x9), ('v', 0xB)]

/-- A part of the inside of a literal with the units it stands for: a plain character, or an escape
    by a letter, by one to four digits, by four digits, or by eight. -/
inductive Part : List Char → List Nat → Prop
  | plain {c : Char} (h : isPlain c = true) : Part [c] (unitsOf c)
  | letter {c : Char} {n : Nat} (h : (c, n) ∈ letterEscapes) : Part ['\\', c] [n]
  | open {digits : List Char} {n : Nat} (hlow : 1 ≤ digits.length) (hhigh : digits.length ≤ 4)
      (h : ofHex? digits = some n) : Part ('\\' :: 'x' :: digits) [n]
  | short {digits : List Char} {n : Nat} (hlength : digits.length = 4)
      (h : ofHex? digits = some n) : Part ('\\' :: 'u' :: digits) [n]
  | long {digits : List Char} {n : Nat} (hlength : digits.length = 8)
      (h : ofHex? digits = some n) (hn : n < 0x110000) :
      Part ('\\' :: 'U' :: digits) (unitsOfNumber n)

/-- An escape by one to four digits takes all the digits it can. -/
def TakesAll (part rest : List Char) : Prop :=
  ∀ digits, part = '\\' :: 'x' :: digits →
    digits.length = 4 ∨ ∀ c ∈ rest.head?, hexValue? c = none

/-- The inside of a literal with the units it stands for. -/
inductive Inside : List Char → List Nat → Prop
  | nil : Inside [] []
  | cons {part rest : List Char} {u v : List Nat} (hpart : Part part u) (hall : TakesAll part rest)
      (h : Inside rest v) : Inside (part ++ rest) (u ++ v)

/-- **A text is one whole literal, and it stands for the units**: two quotes, and between them an
    inside. -/
def Denotes (literal : List Char) (u : List Nat) : Prop :=
  ∃ inside, literal = doubleQuote :: inside ++ [doubleQuote] ∧ Inside inside u

/-! ## 2. Plain texts -/

/-- A part has no more units than the text it is written as, and as many only if it is plain. -/
theorem Part.plain_or_shorter {part : List Char} {u : List Nat} (h : Part part u) :
    (∃ c, part = [c] ∧ u = units part ∧ isPlain c = true) ∨ u.length < (units part).length := by
  cases h with
  | @plain c h => exact Or.inl ⟨c, rfl, by rw [units_cons, units_nil, List.append_nil], h⟩
  | @letter c n h =>
    refine Or.inr (Nat.lt_of_lt_of_le ?_ (length_le_length_units _))
    rw [List.length_singleton, List.length_cons, List.length_singleton]
    omega
  | @«open» digits n hlow hhigh h =>
    refine Or.inr (Nat.lt_of_lt_of_le ?_ (length_le_length_units _))
    rw [List.length_singleton, List.length_cons, List.length_cons]
    omega
  | @short digits n hlength h =>
    refine Or.inr (Nat.lt_of_lt_of_le ?_ (length_le_length_units _))
    rw [List.length_singleton, List.length_cons, List.length_cons]
    omega
  | @long digits n hlength h hn =>
    refine Or.inr (Nat.lt_of_lt_of_le ?_ (length_le_length_units _))
    have hn := (length_unitsOfNumber n).2
    rw [List.length_cons, List.length_cons]
    omega

theorem Inside.length_le {s : List Char} {u : List Nat} (h : Inside s u) :
    u.length ≤ (units s).length := by
  induction h with
  | nil => exact Nat.le_refl 0
  | cons hpart _ _ ih =>
    rw [units_append, List.length_append, List.length_append]
    rcases hpart.plain_or_shorter with ⟨_, _, rfl, _⟩ | hlt
    · omega
    · omega

/-- An inside that has as many units as it is written with is plain. -/
theorem Inside.plain {s : List Char} {u : List Nat} (h : Inside s u)
    (hlength : u.length = (units s).length) : ∀ c ∈ s, isPlain c = true := by
  induction h with
  | nil => exact fun c hc => nomatch hc
  | cons hpart _ hrest ih =>
    have hle := hrest.length_le
    rw [units_append, List.length_append, List.length_append] at hlength
    rcases hpart.plain_or_shorter with ⟨c, rfl, rfl, hc⟩ | hlt
    · intro d hd
      rcases List.mem_append.mp hd with hd | hd
      · rw [List.mem_singleton.mp hd]
        exact hc
      · exact ih (by omega) d hd
    · omega

/-- A plain text is the inside of a literal for itself. -/
theorem inside_of_plain {s : List Char} (h : ∀ c ∈ s, isPlain c = true) : Inside s (units s) := by
  induction s with
  | nil => exact Inside.nil
  | cons c rest ih =>
    have hall : TakesAll [c] rest := fun digits hd => nomatch hd
    have hrest := ih fun d hd => h d (List.mem_cons_of_mem c hd)
    rw [units_cons]
    exact Inside.cons (Part.plain (h c List.mem_cons_self)) hall hrest

theorem toList_inQuotes (s : String) :
    (inQuotes s).toList = doubleQuote :: s.toList ++ [doubleQuote] := by
  rw [inQuotes, String.toList_append, String.toList_append]
  rfl

/-- **A text between quotes is a literal for that text exactly if it is plain.** -/
theorem denotes_inQuotes_iff (s : String) :
    Denotes (inQuotes s).toList (units s.toList) ↔ ∀ c ∈ s.toList, isPlain c = true := by
  rw [toList_inQuotes]
  constructor
  · rintro ⟨inside, h, hinside⟩
    rw [List.cons_append, List.cons_append, List.cons.injEq] at h
    rw [← List.append_cancel_right h.2] at hinside
    exact hinside.plain rfl
  · exact fun h => ⟨s.toList, rfl, inside_of_plain h⟩

end SchemaRecords.Source

namespace SchemaRecords

open Name Record Schema Source Text

/-! ## 3. Keys of declarations -/

/-- The keys of the properties of a schema. -/
def Schema.keys (s : Schema) : List String := s.properties.map (·.1)

/-- The keys of the fields of a declaration. -/
def Record.Declaration.keys (d : Declaration) : List String := d.fields.map (·.key)

/-- Every record under a walk has the keys of its properties. -/
theorem Record.Emits.nested_keys {record : String} {required : List String}
    {own scope scope' : Scope} {ps : List (String × Schema)} {fields : List Field}
    {nested : List Declaration} (h : Emits record required own scope ps fields nested scope')
    (position : Nat) (schema : Schema) :
    nested.map (·.keys) = (pathsFrom position ps).map fun path => (path.target schema).keys := by
  induction h generalizing position schema with
  | nil record required own scope =>
    rw [pathsFrom_nil]
    rfl
  | plain hplain _ _ ih =>
    rw [pathsFrom_plain hplain]
    exact ih (position + 1) schema
  | @record record required own own' scope scope₁ scope₂ scope₃ key s rest depth r claimed below
      nested name fields more hrec _ hwalk _ _ ihb ih =>
    rw [pathsFrom_record hrec]
    have hbelow : (r.paths.map (⟨position, key, depth, r⟩ :: ·)).map
        (fun path => (Schema.Path.target schema path).keys) = r.keys :: nested.map (·.keys) := by
      rw [List.map_map, ihb 0 r]
      rfl
    have hdeclared : (Declaration.mk claimed r.documentation? below).keys = r.keys := hwalk.map_key
    rw [List.map_append, List.map_append, hbelow, ← ih (position + 1) schema, List.map_cons,
      hdeclared]

/-- **The keys of the fields are the keys of the properties**, record by record. -/
theorem keys_declarationsOfSchema {schema : Schema} {root word : String}
    {declarations : List Declaration}
    (h : (declarationsOfSchema schema root word).result = .ok declarations) :
    declarations.map (·.keys) = schema.paths.map fun path => (path.target schema).keys := by
  obtain ⟨policy, _, h⟩ := declarationsOfSchema_ok h
  obtain ⟨fields, nested, scope', hw, rfl⟩ := ofSchema_ok h
  have hdeclared : (Declaration.mk root schema.documentation? fields).keys = schema.keys :=
    hw.map_key
  rw [paths, List.map_cons, List.map_cons, hw.nested_keys 0 schema, hdeclared]
  rfl

/-! ## 4. Keys in sources -/

theorem unlines_append (first rest : List String) :
    unlines (first ++ rest) = unlines first ++ unlines rest := by
  rw [unlines, unlines, unlines, List.map_append, String.join_append]

theorem unlines_cons (line : String) (rest : List String) :
    unlines (line :: rest) = line ++ ("\n" ++ unlines rest) := by
  rw [unlines, List.map_cons, String.join_cons, String.append_assoc]
  rfl

theorem render_fieldView (f : Field) : (FieldView.of f).render =
    "    [property: JsonPropertyName(" ++ inQuotes f.key ++ ")] " ++ f.type.render ++ " " ++
      f.name := rfl

/-- A field stands on a line of its own among those of its record. -/
theorem exists_of_mem_fieldLists {f : FieldView} {fields : List FieldView} (h : f ∈ fields) :
    ∃ above below comma, fieldLists fields = above ++ (f.render ++ comma) :: below := by
  induction fields with
  | nil => cases h
  | cons first rest ih =>
    cases rest with
    | nil =>
      obtain rfl := List.mem_singleton.mp h
      exact ⟨[], [], "", by rw [fieldLists, String.append_empty]; rfl⟩
    | cons second rest =>
      rw [fieldLists]
      · rcases List.mem_cons.mp h with rfl | h
        · exact ⟨[], fieldLists (second :: rest), ",", rfl⟩
        · obtain ⟨above, below, comma, e⟩ := ih h
          exact ⟨(first.render ++ ",") :: above, below, comma, by rw [e]; rfl⟩
      · exact nofun

/-- A field stands on a line of its own among those of the source. -/
theorem exists_of_mem_declarations (space : String) {declarations : List Declaration}
    {d : Declaration} {f : Field} (hd : d ∈ declarations) (hf : f ∈ d.fields) :
    ∃ above below comma, (View.ofDeclarations space declarations).lines =
      above ++ ((FieldView.of f).render ++ comma) :: below := by
  have hview : FieldView.of f ∈ (DeclarationView.of d).fields := List.mem_map_of_mem hf
  obtain ⟨above, below, comma, e⟩ := exists_of_mem_fieldLists hview
  obtain ⟨first, last, rfl⟩ := List.append_of_mem hd
  have hne : (DeclarationView.of d).fields.isEmpty = false :=
    List.isEmpty_eq_false_iff.mpr (List.ne_nil_of_mem hview)
  have hbody : (DeclarationView.of d).render =
      ("" :: summary (DeclarationView.of d).lines ++
        (DeclarationView.of d).fields.flatMap FieldView.parameter ++
        (("public sealed record " ++ (DeclarationView.of d).name ++ "(") :: above)) ++
      ((FieldView.of f).render ++ comma) :: (below ++ [");"]) := by
    unfold DeclarationView.render DeclarationView.body
    simp only [hne, Bool.false_eq_true, if_false, e, List.append_assoc, List.cons_append]
  refine ⟨header space ++ (first.map DeclarationView.of).flatMap DeclarationView.render ++
      ("" :: summary (DeclarationView.of d).lines ++
        (DeclarationView.of d).fields.flatMap FieldView.parameter ++
        (("public sealed record " ++ (DeclarationView.of d).name ++ "(") :: above)),
    below ++ [");"] ++ (last.map DeclarationView.of).flatMap DeclarationView.render, comma, ?_⟩
  simp only [View.lines, View.ofDeclarations, List.map_append, List.map_cons, List.flatMap_append,
    List.flatMap_cons, hbody, List.append_assoc, List.cons_append]

/-- **Whether keys survive in a source.** In the source of a schema each field stands with its key,
    which is that of its property, between quotes as it is, and that is one whole literal for the
    key exactly if the key has no quote, no backslash and no line end. -/
theorem keys_survive_iff {schema : Schema} {root space word text : String}
    (h : (sourceOfSchema schema root space word).result = .ok text) :
    ∃ declarations, (declarationsOfSchema schema root word).result = .ok declarations ∧
      declarations.map (·.keys) = schema.paths.map (fun path => (path.target schema).keys) ∧
      ∀ d ∈ declarations, ∀ f ∈ d.fields,
        (∃ before after, text = before ++ ("    [property: JsonPropertyName(" ++ inQuotes f.key ++
          ")] " ++ f.type.render ++ " " ++ f.name) ++ after) ∧
        (Denotes (inQuotes f.key).toList (units f.key.toList) ↔
          ∀ c ∈ f.key.toList, isPlain c = true) := by
  unfold sourceOfSchema at h
  obtain ⟨declarations, hd, h⟩ := Outcome.result_bind_eq_ok.mp h
  rw [Outcome.result_pure, Except.ok.injEq] at h
  subst h
  refine ⟨declarations, hd, keys_declarationsOfSchema hd, fun d hmem f hf => ⟨?_, ?_⟩⟩
  · have hline := exists_of_mem_declarations space hmem hf
    obtain ⟨above, below, comma, e⟩ := hline
    refine ⟨unlines above, comma ++ ("\n" ++ unlines below), ?_⟩
    rw [← render_fieldView, Source.render, View.render, e, unlines_append, unlines_cons]
    simp only [String.append_assoc]
  · exact denotes_inQuotes_iff f.key

/-- A remark with one property whose key is plain and one whose key has a quote. -/
def remark : Schema :=
  .node { Keywords.none with kind := .object } none
    [("said by", .node { Keywords.none with kind := .string } none []),
      ("a\"b", .node { Keywords.none with kind := .string } none [])]

/-- The declaration of a remark. -/
def remarkDeclaration : Declaration :=
  ⟨"Remark", none,
    [⟨"SaidBy", "said by", ⟨"string", true⟩, none, false⟩,
      ⟨"A\"b", "a\"b", ⟨"string", true⟩, none, false⟩]⟩

theorem keys_survive_iff_remark :
    ∃ text, (sourceOfSchema remark "Remark" "Talk" "error").result = .ok text ∧
      (∃ before after, text = before ++ ("    [property: JsonPropertyName(" ++
        inQuotes "said by" ++ ")] " ++ "string" ++ " " ++ "SaidBy") ++ after) ∧
      Denotes (inQuotes "said by").toList (units "said by".toList) := by
  have hd : (declarationsOfSchema remark "Remark" "error").result = .ok [remarkDeclaration] := by
    decide +kernel
  have h : (sourceOfSchema remark "Remark" "Talk" "error").result =
      .ok (Source.render "Talk" [remarkDeclaration]) :=
    Outcome.result_bind_eq_ok.mpr ⟨_, hd, rfl⟩
  obtain ⟨declarations, hok, _, hfields⟩ := keys_survive_iff h
  rw [hd, Except.ok.injEq] at hok
  subst hok
  obtain ⟨hline, hliteral⟩ := hfields _ List.mem_cons_self _ List.mem_cons_self
  have htype : TypeRef.render ⟨"string", true⟩ = "string" := by decide +kernel
  rw [htype] at hline
  have hplain : ∀ c ∈ "said by".toList, isPlain c = true :=
    List.all_eq_true.mp (by decide +kernel)
  exact ⟨_, h, hline, hliteral.mpr hplain⟩

/-- **A key with a quote is lost**: what stands for it in the source is no literal for it. -/
theorem quoted_key_lost :
    (sourceOfSchema remark "Remark" "Talk" "error").result =
        .ok (Source.render "Talk" [remarkDeclaration]) ∧
      ∃ f ∈ remarkDeclaration.fields, f.key = "a\"b" ∧
        ¬ Denotes (inQuotes f.key).toList (units f.key.toList) := by
  have hd : (declarationsOfSchema remark "Remark" "error").result = .ok [remarkDeclaration] := by
    decide +kernel
  refine ⟨Outcome.result_bind_eq_ok.mpr ⟨_, hd, rfl⟩, _,
    List.mem_cons_of_mem _ List.mem_cons_self, rfl, fun h => ?_⟩
  have hplain := (denotes_inQuotes_iff _).mp h doubleQuote (by decide +kernel)
  exact absurd hplain (by decide +kernel)

end SchemaRecords

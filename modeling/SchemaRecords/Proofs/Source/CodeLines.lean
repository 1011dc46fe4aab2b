import SchemaRecords.Proofs.Schema.Undescribed
import SchemaRecords.Proofs.Source.Lines

/-!
# Documentation and the lines of code

Documentation stands in comment lines of the source, and nothing of it gets into the others.

* `codeLines` -- the lines of a text that are no documentation comments, cut at every line end of
  the target language;
* `codeLines_summary`, `codeLines_parameter` -- documentation has no line of code in it;
* `codeLines_render` -- so the lines of code of a source are those of its declarations without
  documentation;
* `documentation_not_code` -- **documentation cannot reach the code**: what differs in descriptions
  alone has the same fault or the same lines of code.
-/

namespace SchemaRecords.Source

open Record Text

/-! ## 1. Lines of code -/

/-- The lines of code of a text: it is cut at every line end, and documentation comments are left
    out. -/
def codeLines (text : String) : List (List Char) :=
  (text.toList.splitOnP lineEnds.contains).filter fun line => !isComment line

/-- Texts in which no line ends. -/
def OneLine (text : String) : Prop := Avoids lineEnds text

/-- The lines of code of lines are those of each of them. -/
theorem codeLines_unlines (lines : List String) :
    codeLines (unlines lines) = lines.flatMap codeLines ++ [[]] := by
  have hfeed : lineEnds.contains '\n' = true := by decide
  unfold codeLines
  rw [splitOnP_unlines hfeed, List.filter_append, List.filter_flatMap]
  rfl

/-- A comment on one line has no line of code. -/
theorem codeLines_comment {line : String} (hone : OneLine line)
    (hcomment : isComment line.toList = true) : codeLines line = [] := by
  have huncut : ∀ c ∈ line.toList, lineEnds.contains c = false := by
    intro c hc
    exact Bool.eq_false_iff.mpr fun hmem => hone c hc (List.contains_iff_mem.mp hmem)
  unfold codeLines
  rw [List.splitOnP_eq_singleton huncut, List.filter_cons, hcomment]
  rfl

/-! ## 2. Documentation lines -/

theorem lineEnds_are_breaks : ∀ c ∈ lineEnds, isLineBreak c = true := by
  simp [lineEnds, isLineBreak]

/-- The documentation of a declaration has no lines of code. -/
theorem codeLines_summary (documentation : Option String) :
    (summary (documentationLines documentation)).flatMap codeLines = [] := by
  refine List.flatMap_eq_nil_iff.mpr fun line hline => ?_
  have hone : OneLine line := avoids_of_mem_summary lineEnds_are_breaks hline
  exact codeLines_comment hone (isComment_of_mem_summary hline)

/-- The documentation of a field has none, if its name is on one line. -/
theorem codeLines_parameter {f : Field} (h : OneLine f.name) :
    (FieldView.of f).parameter.flatMap codeLines = [] := by
  refine List.flatMap_eq_nil_iff.mpr fun line hline => ?_
  have hone : OneLine line := avoids_of_mem_parameter lineEnds_are_breaks h hline
  exact codeLines_comment hone (isComment_of_mem_parameter hline)

/-! ## 3. Sources -/

/-- All fields of the declarations have names on one line. -/
def OneLineNames (declarations : List Declaration) : Prop :=
  ∀ d ∈ declarations, ∀ f ∈ d.fields, OneLine f.name

/-- The lines of code of a declaration are an empty one and those of the record itself. -/
theorem codeLines_declaration {d : Declaration} (h : ∀ f ∈ d.fields, OneLine f.name) :
    (DeclarationView.of d).render.flatMap codeLines =
      codeLines "" ++ (DeclarationView.of d).body.flatMap codeLines := by
  have hsummary : (summary (DeclarationView.of d).lines).flatMap codeLines = [] :=
    codeLines_summary d.documentation
  have hfields : ((DeclarationView.of d).fields.flatMap FieldView.parameter).flatMap codeLines =
      [] := by
    rw [List.flatMap_assoc]
    refine List.flatMap_eq_nil_iff.mpr fun view hview => ?_
    obtain ⟨f, hf, rfl⟩ := List.mem_map.mp hview
    exact codeLines_parameter (h f hf)
  unfold DeclarationView.render
  rw [List.flatMap_append, List.flatMap_append, List.flatMap_cons, hsummary, hfields,
    List.append_nil, List.append_nil]

/-- Fields stand in the record as they do without documentation. -/
theorem fieldLists_undocumented (fields : List Field) :
    fieldLists ((fields.map Field.undocumented).map FieldView.of) =
      fieldLists (fields.map FieldView.of) := by
  induction fields with
  | nil => rfl
  | cons f rest ih =>
    cases rest with
    | nil => rfl
    | cons g others =>
      simp only [List.map_cons] at ih ⊢
      rw [fieldLists_cons, fieldLists_cons, ih]
      rfl

theorem body_undocumented (d : Declaration) :
    (DeclarationView.of d.undocumented).body = (DeclarationView.of d).body := by
  have hempty : (DeclarationView.of d.undocumented).fields.isEmpty =
      (DeclarationView.of d).fields.isEmpty := by
    show ((d.fields.map Field.undocumented).map FieldView.of).isEmpty =
      (d.fields.map FieldView.of).isEmpty
    rw [List.isEmpty_map, List.isEmpty_map, List.isEmpty_map]
  have hlists : fieldLists (DeclarationView.of d.undocumented).fields =
      fieldLists (DeclarationView.of d).fields := fieldLists_undocumented d.fields
  unfold DeclarationView.body
  rw [hempty, hlists]
  rfl

/-- Documentation has no part in the names of fields. -/
theorem oneLineNames_undocumented {declarations : List Declaration} :
    OneLineNames (declarations.map Declaration.undocumented) ↔ OneLineNames declarations := by
  constructor
  · intro h d hd f hf
    exact h d.undocumented (List.mem_map_of_mem hd) f.undocumented (List.mem_map_of_mem hf)
  · rintro h _ hd _ hf
    obtain ⟨d, hmem, rfl⟩ := List.mem_map.mp hd
    obtain ⟨f, hfield, rfl⟩ := List.mem_map.mp hf
    exact h d hmem f hfield

/-- The lines of code of a source, declaration by declaration. -/
theorem codeLines_declarations (space : String) {declarations : List Declaration}
    (h : OneLineNames declarations) :
    codeLines (Source.render space declarations) =
      (header space).flatMap codeLines ++
        declarations.flatMap (fun d =>
          codeLines "" ++ (DeclarationView.of d).body.flatMap codeLines) ++ [[]] := by
  have hrender : Source.render space declarations = unlines (header space ++
      (declarations.map DeclarationView.of).flatMap DeclarationView.render) := rfl
  have hblocks : ((declarations.map DeclarationView.of).flatMap DeclarationView.render).flatMap
      codeLines = declarations.flatMap fun d =>
        codeLines "" ++ (DeclarationView.of d).body.flatMap codeLines := by
    rw [List.flatMap_assoc, List.flatMap_map]
    exact List.flatMap_congr fun d hd => codeLines_declaration (h d hd)
  rw [hrender, codeLines_unlines, List.flatMap_append, hblocks]

/-- **The lines of code of a source** are those of its declarations without documentation. -/
theorem codeLines_render (space : String) {declarations : List Declaration}
    (h : OneLineNames declarations) :
    codeLines (Source.render space declarations) =
      codeLines (Source.render space (declarations.map Declaration.undocumented)) := by
  rw [codeLines_declarations space h,
    codeLines_declarations space (oneLineNames_undocumented.mpr h), List.flatMap_map]
  simp only [body_undocumented]

end SchemaRecords.Source

namespace SchemaRecords

open Document Record Schema Source

/-! ## 4. Two runs -/

/-- Two results that are read as the same are the same fault, or both are there. -/
theorem map_eq_map {ε α β : Type} {x y : Except ε α} {f : α → β} (h : x.map f = y.map f) :
    (∃ e, x = .error e ∧ y = .error e) ∨ ∃ a b, x = .ok a ∧ y = .ok b ∧ f a = f b := by
  cases x with
  | error e =>
    cases y with
    | error d => exact Or.inl ⟨e, rfl, congrArg Except.error (Except.error.inj h).symm⟩
    | ok b => cases h
  | ok a =>
    cases y with
    | error d => cases h
    | ok b => exact Or.inr ⟨a, b, rfl, rfl, Except.ok.inj h⟩

theorem Outcome.result_map {ε α β : Type} (f : α → β) (x : Outcome ε α) :
    (f <$> x).result = x.result.map f := by
  rw [map_eq_pure_bind, Outcome.result_bind]
  cases x.result <;> rfl

/-- Runs whose declarations differ in documentation alone have the same lines of code. -/
theorem sameCode {x y : Outcome Fault (List Declaration)}
    (h : List.map Declaration.undocumented <$> x = List.map Declaration.undocumented <$> y)
    (hnames : ∀ declarations, x.result = .ok declarations → OneLineNames declarations)
    (space : String) :
    (Source.render space <$> x).result.map codeLines =
      (Source.render space <$> y).result.map codeLines := by
  have hresult := congrArg Outcome.result h
  rw [Outcome.result_map, Outcome.result_map] at hresult ⊢
  rcases map_eq_map hresult with ⟨fault, hx, hy⟩ | ⟨declarations, others, hx, hy, hsame⟩
  · rw [hx, hy]
  · have hone := hnames declarations hx
    -- the names are those of the first run, so what is asked of them is asked only once
    have hothers : OneLineNames others := by
      rw [← oneLineNames_undocumented, ← hsame, oneLineNames_undocumented]
      exact hone
    rw [hx, hy]
    show Except.ok _ = Except.ok _
    rw [codeLines_render space hone, codeLines_render space hothers, hsame]

/-- The source of the schema of a JSON text. -/
def sourceOfText (text root space policy : String) : Outcome Fault String := do
  let schema ← Outcome.ofExcept (Schema.ofJson text)
  sourceOfSchema schema root space policy

/-- The tools have the same name, and parameters that differ in descriptions alone. -/
def Tool.SameButDescribed (tool other : Tool) : Prop :=
  tool.name = other.name ∧ SchemaRecords.SameButDescribed tool.parameters other.parameters

theorem sourceOfSchema_eq (s : Schema) (root space word : String) :
    sourceOfSchema s root space word =
      Source.render space <$> declarationsOfSchema s root word := by
  rw [map_eq_pure_bind]
  rfl

theorem sourceOfTools_eq (tools : List Tool) (space word : String) :
    sourceOfTools tools space word = Source.render space <$> declarationsOfTools tools word := by
  rw [map_eq_pure_bind]
  rfl

/-- Schemas that differ in descriptions alone have the same lines of code. -/
theorem sameCode_schema {s other : Schema} (h : s.undescribed = other.undescribed)
    (root space word : String)
    (hnames : ∀ declarations, (declarationsOfSchema s root word).result = .ok declarations →
      OneLineNames declarations) :
    (sourceOfSchema s root space word).result.map codeLines =
      (sourceOfSchema other root space word).result.map codeLines := by
  rw [sourceOfSchema_eq, sourceOfSchema_eq]
  refine sameCode ?_ hnames space
  rw [undocumented_declarationsOfSchema, undocumented_declarationsOfSchema, h]

/-- **Documentation cannot reach the code.** Schemas, texts of schemas, and tools that differ in
    descriptions alone have the same fault, or sources with the same lines of code, if the fields
    have names on one line. -/
theorem documentation_not_code (space word : String) :
    (∀ (s other : Schema) (root : String), s.undescribed = other.undescribed →
      (∀ declarations, (declarationsOfSchema s root word).result = .ok declarations →
        OneLineNames declarations) →
      (sourceOfSchema s root space word).result.map codeLines =
        (sourceOfSchema other root space word).result.map codeLines) ∧
    (∀ text other root : String, SameButDescribed text other →
      (∀ s, Schema.ofJson text = .ok s → ∀ declarations,
        (declarationsOfSchema s root word).result = .ok declarations →
        OneLineNames declarations) →
      (sourceOfText text root space word).result.map codeLines =
        (sourceOfText other root space word).result.map codeLines) ∧
    ∀ tools others : List Tool, List.Forall₂ Tool.SameButDescribed tools others →
      (∀ declarations, (declarationsOfTools tools word).result = .ok declarations →
        OneLineNames declarations) →
      (sourceOfTools tools space word).result.map codeLines =
        (sourceOfTools others space word).result.map codeLines := by
  refine ⟨fun s other root h hnames => sameCode_schema h root space word hnames,
    fun text other root h hnames => ?_, fun tools others h hnames => ?_⟩
  · have hsame := h.ofJson
    unfold sourceOfText
    rw [Outcome.result_bind, Outcome.result_bind, Outcome.result_ofExcept,
      Outcome.result_ofExcept]
    rcases map_eq_map hsame with ⟨fault, htext, hother⟩ | ⟨s, t, htext, hother, hst⟩
    · rw [htext, hother]
    · rw [htext, hother]
      exact sameCode_schema hst root space word (hnames s htext)
  · have htasks : List.Forall₂ Tool.SameTask tools others :=
      h.imp fun tool other htool => ⟨htool.1, htool.2.ofJson⟩
    rw [sourceOfTools_eq, sourceOfTools_eq]
    exact sameCode (undocumented_declarationsOfTools htasks word) hnames space

/-- A memo whose body is a text, with some documentation at both. -/
def memo (documentation : Option String) : Schema :=
  .node { Keywords.none with kind := .object, description := documentation } none
    [("body", .node { Keywords.none with kind := .string, description := documentation } none [])]

/-- A memo as a JSON text. -/
def memoText : String :=
  "\x7b\"type\": \"object\", \"properties\": \x7b\"body\": \x7b\"type\": \"string\"\x7d\x7d\x7d"

/-- Its value. -/
def memoValue : Value :=
  .mapping [(.text "type", .text "object"),
    (.text "properties", .mapping [(.text "body", .mapping [(.text "type", .text "string")])])]

/-- The same with descriptions that would break out of a comment if their lines were not kept
    apart. -/
def boldText : String :=
  "\x7b\"description\": \"A memo.\\r\\npublic class X;\", \"type\": \"object\", " ++
    "\"properties\": \x7b\"body\": \x7b\"type\": \"string\", " ++
    "\"description\": \"</param>\\u2028X\"\x7d\x7d\x7d"

/-- Its value. -/
def boldValue : Value :=
  .mapping [(.text "description", .text "A memo.\r\npublic class X;"),
    (.text "type", .text "object"),
    (.text "properties", .mapping [(.text "body",
      .mapping [(.text "type", .text "string"), (.text "description", .text "</param>\u2028X")])])]

/-- A tool that takes a memo. -/
def memoTool (text description : String) : Tool := ⟨"send", description, text, "", []⟩

/-- The declaration of a memo under a name. -/
def memoDeclaration (name : String) (documentation : Option String) : Declaration :=
  ⟨name, documentation, [⟨"Body", "body", ⟨"string", true⟩, documentation, false⟩]⟩

theorem oneLineNames_memo (name : String) (documentation : Option String) :
    OneLineNames [memoDeclaration name documentation] := by
  intro d hd f hf
  obtain rfl := List.mem_singleton.mp hd
  obtain rfl := List.mem_singleton.mp hf
  have hbody : Avoids lineEnds "Body" := by decide +kernel
  exact hbody

theorem sameButDescribed_memo : SameButDescribed memoText boldText := by
  refine Or.inr ⟨memoValue, boldValue, ?_, ?_, ?_⟩ <;> decide +kernel

theorem documentation_not_code_memo :
    (memo none).undescribed = (memo (some "A\r\nB")).undescribed ∧
      (sourceOfSchema (memo none) "Memo" "App" "error").result.map codeLines =
        (sourceOfSchema (memo (some "A\r\nB")) "Memo" "App" "error").result.map codeLines ∧
      SameButDescribed memoText boldText ∧
      (sourceOfText memoText "Memo" "App" "error").result.map codeLines =
        (sourceOfText boldText "Memo" "App" "error").result.map codeLines ∧
      (sourceOfTools [memoTool memoText ""] "App" "error").result.map codeLines =
        (sourceOfTools [memoTool boldText "Sends."] "App" "error").result.map codeLines := by
  obtain ⟨hschema, htext, htools⟩ := documentation_not_code "App" "error"
  have hsame : (memo none).undescribed = (memo (some "A\r\nB")).undescribed := rfl
  have hdeclared : (declarationsOfSchema (memo none) "Memo" "error").result =
      .ok [memoDeclaration "Memo" none] := by decide +kernel
  have hread : (do
      let schema ← Outcome.ofExcept (Schema.ofJson memoText)
      declarationsOfSchema schema "Memo" "error").result = .ok [memoDeclaration "Memo" none] := by
    decide +kernel
  have hrequest : (declarationsOfTools [memoTool memoText ""] "error").result =
      .ok [memoDeclaration "SendRequest" none] := by decide +kernel
  have htool : Tool.SameButDescribed (memoTool memoText "") (memoTool boldText "Sends.") :=
    ⟨rfl, sameButDescribed_memo⟩
  refine ⟨hsame, hschema _ _ "Memo" hsame ?_, sameButDescribed_memo,
    htext _ _ "Memo" sameButDescribed_memo ?_, htools _ _ (.cons htool .nil) ?_⟩
  · intro declarations h
    rw [hdeclared, Except.ok.injEq] at h
    exact h ▸ oneLineNames_memo "Memo" none
  · intro s hs declarations h
    have hrun := hread.symm.trans (Outcome.result_bind_eq_ok.mpr ⟨s, hs, h⟩)
    exact Except.ok.inj hrun ▸ oneLineNames_memo "Memo" none
  · intro declarations h
    rw [hrequest, Except.ok.injEq] at h
    exact h ▸ oneLineNames_memo "SendRequest" none

end SchemaRecords

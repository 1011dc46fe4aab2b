import SchemaRecords.Proofs.Name.Cased
import SchemaRecords.Proofs.Record.Distinct
import SchemaRecords.Proofs.Source.Reading

/-!
# Sources are read back

A source tells which declarations it was generated from.

* `Emits.blankless` -- no field has a name with a blank, since casing drops it and a number adds
  none;
* `Generated` -- a run over a schema or over tools, with its declarations and its text;
  `Generated.wellNamed` -- the names of its fields are distinct and without blanks;
* `source_reads_back` -- **two runs with the same text** have the same namespace and, one by one,
  the same facts of their declarations.
-/

namespace SchemaRecords.Record

open Name Source

/-! ## 1. Names without blanks -/

theorem avoids_blank_of_not_isSeparator {text : String}
    (h : ∀ c ∈ text.toList, isSeparator c = false) : Avoids [' '] text := by
  intro c hc hmem
  have hblank : isSeparator c = true := by
    rw [List.mem_singleton.mp hmem]
    rfl
  rw [h c hc] at hblank
  cases hblank

theorem avoids_blank_pascal (key : String) : Avoids [' '] (pascal key) :=
  avoids_blank_of_not_isSeparator fun _ => not_isSeparator_of_mem_pascal

theorem avoids_blank_number (k : Nat) : Avoids [' '] (toString k) := by
  refine avoids_blank_of_not_isSeparator fun c hc => not_isSeparator_of_isDigit ?_
  rw [Nat.toString_eq_repr, Nat.toList_repr] at hc
  exact Nat.isDigit_of_mem_toDigits (by decide) (by decide) hc

/-- The name that a field gets has no blank. -/
theorem avoids_blank_of_claim {scope scope' : Scope} {key name : String}
    (h : (scope.claim (pascal key)).result = .ok (name, scope')) : Avoids [' '] name := by
  obtain ⟨_, _, rfl | ⟨_, k, rfl⟩⟩ := Scope.claim_ok h
  · exact avoids_blank_pascal key
  · exact avoids_append.mpr ⟨avoids_blank_pascal key, avoids_blank_number k⟩

/-- **No field has a name with a blank**, neither those of the record nor those of the records
    under it. -/
theorem Emits.blankless {record : String} {required : List String} {own scope scope' : Scope}
    {ps : List (String × Schema)} {fields : List Field} {nested : List Declaration}
    (h : Emits record required own scope ps fields nested scope') :
    (∀ f ∈ fields, Avoids [' '] f.name) ∧ ∀ d ∈ nested, ∀ f ∈ d.fields, Avoids [' '] f.name := by
  induction h with
  | nil record required own scope => exact ⟨List.forall_mem_nil _, List.forall_mem_nil _⟩
  | plain _ hname _ ih =>
    exact ⟨List.forall_mem_cons.mpr ⟨avoids_blank_of_claim hname, ih.1⟩, ih.2⟩
  | record _ _ _ hname _ ihb ih =>
    refine ⟨List.forall_mem_cons.mpr ⟨avoids_blank_of_claim hname, ih.1⟩, ?_⟩
    exact List.forall_mem_append.mpr ⟨List.forall_mem_cons.mpr ihb, ih.2⟩

/-- A record with distinct names. -/
theorem wellNamed_of {d : Declaration} (hnames : d.names.Nodup)
    (hblankless : ∀ f ∈ d.fields, Avoids [' '] f.name) : WellNamed d :=
  ⟨(List.nodup_cons.mp hnames).2, hblankless⟩

theorem emitRoot_wellNamed {schema : Schema} {root : String} {scope scope' : Scope}
    {declarations : List Declaration}
    (h : (emitRoot schema root scope).result = .ok (declarations, scope')) :
    ∀ d ∈ declarations, WellNamed d := by
  obtain ⟨claimed, scope₁, fields, nested, _, hwalk, rfl⟩ := emitRoot_ok h
  obtain ⟨hfields, hnested⟩ := hwalk.blankless
  refine List.forall_mem_cons.mpr ⟨wellNamed_of hwalk.names_nodup hfields, fun d hd => ?_⟩
  exact wellNamed_of (hwalk.nested_nodup hd) (hnested d hd)

end SchemaRecords.Record

namespace SchemaRecords

open Name Record Source Text

/-! ## 2. Runs -/

theorem wellNamed_documentRoot {description : String} {declarations : List Declaration}
    (h : ∀ d ∈ declarations, WellNamed d) :
    ∀ d ∈ documentRoot description declarations, WellNamed d := by
  cases declarations with
  | nil => exact h
  | cons root rest =>
    obtain ⟨hroot, hrest⟩ := List.forall_mem_cons.mp h
    exact List.forall_mem_cons.mpr ⟨⟨hroot.distinct, hroot.blankless⟩, hrest⟩

theorem emitTools_wellNamed {tools : List Tool} {scope : Scope} {declarations : List Declaration}
    (h : (emitTools scope tools).result = .ok declarations) :
    ∀ d ∈ declarations, WellNamed d := by
  induction tools generalizing scope declarations with
  | nil =>
    cases h
    exact List.forall_mem_nil _
  | cons tool rest ih =>
    obtain ⟨first, scope', more, hfirst, hmore, rfl⟩ := emitTools_cons_ok h
    obtain ⟨schema, plain, _, hroot, rfl⟩ := emitTool_ok hfirst
    have hplain := emitRoot_wellNamed hroot
    exact List.forall_mem_append.mpr ⟨wellNamed_documentRoot hplain, ih hmore⟩

/-- A run that answers, over a schema or over tools: the namespace, the declarations, and the
    text. -/
inductive Generated (space : String) (declarations : List Declaration) (text : String) : Prop
  | schema (s : Schema) (root word : String)
      (hdeclared : (declarationsOfSchema s root word).result = .ok declarations)
      (htext : (sourceOfSchema s root space word).result = .ok text)
  | tools (tools : List Tool) (word : String)
      (hdeclared : (declarationsOfTools tools word).result = .ok declarations)
      (htext : (sourceOfTools tools space word).result = .ok text)

section

variable {space text : String} {declarations : List Declaration}

/-- The text is that of the declarations. -/
theorem Generated.text_eq (h : Generated space declarations text) :
    text = Source.render space declarations := by
  cases h with
  | schema s root word hdeclared htext =>
    obtain ⟨others, hothers, htext⟩ := Outcome.result_bind_eq_ok.mp htext
    rw [hdeclared] at hothers
    rw [Except.ok.inj hothers]
    exact (Except.ok.inj htext).symm
  | tools tools word hdeclared htext =>
    obtain ⟨others, hothers, htext⟩ := Outcome.result_bind_eq_ok.mp htext
    rw [hdeclared] at hothers
    rw [Except.ok.inj hothers]
    exact (Except.ok.inj htext).symm

/-- **The fields of a run are well named.** -/
theorem Generated.wellNamed (h : Generated space declarations text) :
    ∀ d ∈ declarations, WellNamed d := by
  cases h with
  | schema s root word hdeclared _ =>
    obtain ⟨policy, _, hrun⟩ := declarationsOfSchema_ok hdeclared
    obtain ⟨⟨emitted, scope⟩, hroot, hrun⟩ := Outcome.result_bind_eq_ok.mp hrun
    cases hrun
    exact emitRoot_wellNamed hroot
  | tools tools word hdeclared _ =>
    obtain ⟨policy, _, hrun⟩ := Outcome.result_bind_eq_ok.mp hdeclared
    exact emitTools_wellNamed hrun

end

/-- **A source can be read back.** If two runs have the same text, and no namespace, no name and no
    type has a line feed and no key a line feed or a quote, then the namespaces are the same, and so
    are, one by one, the names of the declarations, the lines of their documentation, and their
    fields with names, keys, types and joined documentation. -/
theorem source_reads_back {space space' text : String}
    {declarations declarations' : List Declaration} (h : Generated space declarations text)
    (h' : Generated space' declarations' text) (hspace : Avoids ['\n'] space)
    (hspace' : Avoids ['\n'] space') (hlegible : ∀ d ∈ declarations, Legible d)
    (hlegible' : ∀ d ∈ declarations', Legible d) :
    space = space' ∧ declarations.map declarationFacts = declarations'.map declarationFacts := by
  have htext : Source.render space declarations = Source.render space' declarations' := by
    rw [← h.text_eq, h'.text_eq]
  have hnamed := h.wellNamed
  have hnamed' := h'.wellNamed
  exact source_inj hspace hspace' (fun d hd => ⟨hnamed d hd, hlegible d hd⟩)
    (fun d hd => ⟨hnamed' d hd, hlegible' d hd⟩) htext

/-- A letter with a body. -/
def letter : Schema :=
  .node { Keywords.none with kind := .object, description := some "A letter." } none
    [("the body", .node { Keywords.none with kind := .string, description := some "It & more." }
      none [])]

/-- A tool that takes the same, documented with blanks around. -/
def letterTool : Tool :=
  { name := "send"
    description := ""
    parameters := "\x7b\"type\": \"object\", \"description\": \" A letter. \", \"properties\": " ++
      "\x7b\"the body\": \x7b\"type\": \"string\", \"description\": \"It & more.\\n\"\x7d\x7d\x7d"
    result := ""
    metadata := [] }

/-- The declaration of a letter with some documentation. -/
def letterDeclaration (documentation body : String) : Declaration :=
  ⟨"SendRequest", some documentation,
    [⟨"TheBody", "the body", ⟨"string", true⟩, some body, false⟩]⟩

theorem legible_letter (documentation body : String) :
    Legible (letterDeclaration documentation body) := by
  have hname : Avoids ['\n'] "SendRequest" := by decide
  refine ⟨hname, fun f hf => ?_⟩
  obtain rfl := List.mem_singleton.mp hf
  have hfield : Avoids ['\n'] "TheBody" := by decide
  have htype : Avoids ['\n'] (TypeRef.render ⟨"string", true⟩) := by decide
  have hkey : Avoids ['\n', doubleQuote] "the body" := by decide
  exact ⟨hfield, htype, hkey⟩

theorem source_reads_back_letter :
    ∃ text, Generated "App" [letterDeclaration "A letter." "It & more."] text ∧
      Generated "App" [letterDeclaration " A letter. " "It & more.\n"] text ∧
      [letterDeclaration "A letter." "It & more."].map declarationFacts =
        [letterDeclaration " A letter. " "It & more.\n"].map declarationFacts := by
  have hschema : (declarationsOfSchema letter "SendRequest" "error").result =
      .ok [letterDeclaration "A letter." "It & more."] := by decide
  have htools : (declarationsOfTools [letterTool] "error").result =
      .ok [letterDeclaration " A letter. " "It & more.\n"] := by decide +kernel
  have hsame : Source.render "App" [letterDeclaration " A letter. " "It & more.\n"] =
      Source.render "App" [letterDeclaration "A letter." "It & more."] := by decide +kernel
  have hfirst : Generated "App" [letterDeclaration "A letter." "It & more."]
      (Source.render "App" [letterDeclaration "A letter." "It & more."]) :=
    .schema letter "SendRequest" "error" hschema
      (Outcome.result_bind_eq_ok.mpr ⟨_, hschema, rfl⟩)
  have hsecond : Generated "App" [letterDeclaration " A letter. " "It & more.\n"]
      (Source.render "App" [letterDeclaration "A letter." "It & more."]) :=
    .tools [letterTool] "error" htools
      (Outcome.result_bind_eq_ok.mpr ⟨_, htools, congrArg Except.ok hsame⟩)
  have hspace : Avoids ['\n'] "App" := by decide
  have hlegible (documentation body : String) :
      ∀ d ∈ [letterDeclaration documentation body], Legible d :=
    List.forall_mem_singleton.mpr (legible_letter documentation body)
  obtain ⟨_, hfacts⟩ :=
    source_reads_back hfirst hsecond hspace hspace (hlegible _ _) (hlegible _ _)
  exact ⟨_, hfirst, hsecond, hfacts⟩

end SchemaRecords

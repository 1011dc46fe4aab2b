import SchemaRecords.Proofs.Record.Policies
import SchemaRecords.Proofs.Record.Wider

/-!
# Tools and their blocks

The declarations of tools come in blocks, one for each tool. All tools share the names of the run,
and still each block is what the tool has in a run of its own.

* `Tool.Block` -- the declarations of a tool in a run of its own that refuses clashes;
* `emitTool_iff` -- a tool whose turn comes when names are in use adds its own block, if that
  declares none of them;
* `emitTools_iff` -- so tools add their own blocks, if no name is in two of them;
* `block_head` -- the first declaration of a block, its name and its documentation;
* `tools_compose` -- **a run over tools is made of the runs over each of them**.
-/

namespace SchemaRecords

open Name Record

/-! ## 1. Blocks -/

/-- The declarations of a tool in a run of its own that refuses clashes. -/
def Tool.Block (tool : Tool) (block : List Declaration) : Prop :=
  (declarationsOfTools [tool] "error").result = .ok block

/-- No name is declared in both blocks. -/
def Apart (b c : List Declaration) : Prop := (b.map (·.name)).Disjoint (c.map (·.name))

theorem Apart.symm {b c : List Declaration} (h : Apart b c) : Apart c b := List.Disjoint.symm h

/-- The scope of a run that refuses clashes, where some names are in use. -/
def runScope (taken : List String) : Scope := ⟨.refuse, none, taken⟩

theorem declarationsOfTools_error (tools : List Tool) :
    declarationsOfTools tools "error" = emitTools (runScope []) tools :=
  declarationsOfTools_name tools .refuse

/-- The block of a tool is what it adds where no name is in use. -/
theorem block_iff {tool : Tool} {block : List Declaration} :
    tool.Block block ↔ ∃ scope, (emitTool tool (runScope [])).result = .ok (block, scope) := by
  rw [Tool.Block, declarationsOfTools_error]
  constructor
  · intro h
    obtain ⟨first, scope, more, hfirst, hmore, rfl⟩ := emitTools_cons_ok h
    cases hmore
    rw [List.append_nil]
    exact ⟨scope, hfirst⟩
  · rintro ⟨scope, h⟩
    rw [emitTools]
    refine Outcome.result_bind_eq_ok.mpr ⟨_, h, ?_⟩
    refine Outcome.result_bind_eq_ok.mpr ⟨[], rfl, ?_⟩
    rw [Outcome.result_pure, List.append_nil]

/-! ## 2. One tool after others -/

/-- A tool is emitted where its parameters are a schema and their root is emitted. -/
theorem emitTool_eq_ok {tool : Tool} {scope scope' : Scope} {schema : Schema}
    {plain : List Declaration} (hschema : Schema.ofJson tool.parameters = .ok schema)
    (hroot : (emitRoot schema (ofRequest tool.name) scope).result = .ok (plain, scope')) :
    (emitTool tool scope).result = .ok (documentRoot tool.description plain, scope') := by
  unfold emitTool
  refine Outcome.result_bind_eq_ok.mpr ⟨schema, hschema, ?_⟩
  exact Outcome.result_bind_eq_ok.mpr ⟨_, Outcome.result_mapError_eq_ok.mpr hroot, rfl⟩

/-- Documentation does not matter to names in use. -/
theorem forall_documentRoot {description : String} {declarations : List Declaration}
    {taken : List String} :
    (∀ d ∈ documentRoot description declarations, d.name ∉ taken) ↔
      ∀ d ∈ declarations, d.name ∉ taken := by
  have hnames : ∀ ds : List Declaration,
      (∀ d ∈ ds, d.name ∉ taken) ↔ ∀ name ∈ ds.map (·.name), name ∉ taken :=
    fun ds => (List.forall_mem_map (f := (·.name)) (l := ds) (P := (· ∉ taken))).symm
  rw [hnames, hnames, map_name_documentRoot]

/-- **A tool after others** adds its own block to the names in use, if it declares none of them. -/
theorem emitTool_iff {tool : Tool} {taken : List String} {block : List Declaration}
    {scope : Scope} :
    (emitTool tool (runScope taken)).result = .ok (block, scope) ↔
      tool.Block block ∧ (∀ d ∈ block, d.name ∉ taken) ∧
        scope = runScope ((block.map (·.name)).reverse ++ taken) := by
  have hpolicy : (runScope []).policy = .refuse := rfl
  have hwide : runScope taken = (runScope []).widen taken := rfl
  rw [block_iff]
  constructor
  · intro h
    obtain ⟨schema, plain, hschema, hroot, rfl⟩ := emitTool_ok h
    rw [hwide] at hroot
    obtain ⟨alone, halone, rfl, hfree⟩ := (emitRoot_widen_iff hpolicy).mp hroot
    refine ⟨⟨alone, emitTool_eq_ok hschema halone⟩, forall_documentRoot.mpr hfree, ?_⟩
    rw [emitRoot_scope_eq halone, map_name_documentRoot]
    simp [Scope.widen, runScope]
  · rintro ⟨⟨alone, h⟩, hfree, rfl⟩
    obtain ⟨schema, plain, hschema, hroot, rfl⟩ := emitTool_ok h
    have hplain := forall_documentRoot.mp hfree
    have hafter := (emitRoot_widen_iff hpolicy).mpr ⟨alone, hroot, rfl, hplain⟩
    have hscope : alone.widen taken =
        runScope ((plain.map (·.name)).reverse ++ taken) := by
      rw [emitRoot_scope_eq hroot]
      simp [Scope.widen, runScope]
    rw [map_name_documentRoot, ← hscope, hwide]
    exact emitTool_eq_ok hschema hafter

/-! ## 3. Tools one after the other -/

/-- Names that are in use after a block are those of the block, or were in use before. -/
theorem forall_not_mem_after {blocks : List (List Declaration)} {first : List Declaration}
    {taken : List String} :
    (∀ b ∈ blocks, ∀ d ∈ b, d.name ∉ (first.map (·.name)).reverse ++ taken) ↔
      (∀ b ∈ blocks, Apart first b) ∧ ∀ b ∈ blocks, ∀ d ∈ b, d.name ∉ taken := by
  constructor
  · intro h
    refine ⟨fun b hb name hfirst hname => ?_, fun b hb d hd ht => ?_⟩
    · obtain ⟨d, hd, rfl⟩ := List.mem_map.mp hname
      exact h b hb d hd (List.mem_append_left _ (List.mem_reverse.mpr hfirst))
    · exact h b hb d hd (List.mem_append_right _ ht)
  · rintro ⟨hapart, hfree⟩ b hb d hd hmem
    rcases List.mem_append.mp hmem with hmem | hmem
    · exact hapart b hb (List.mem_reverse.mp hmem) (List.mem_map_of_mem hd)
    · exact hfree b hb d hd hmem

/-- **Tools add their own blocks**, one after the other, exactly if no name is declared in two of
    them and none was in use before. -/
theorem emitTools_iff {tools : List Tool} {taken : List String}
    {declarations : List Declaration} :
    (emitTools (runScope taken) tools).result = .ok declarations ↔
      ∃ blocks, List.Forall₂ Tool.Block tools blocks ∧ blocks.Pairwise Apart ∧
        (∀ b ∈ blocks, ∀ d ∈ b, d.name ∉ taken) ∧ declarations = blocks.flatten := by
  induction tools generalizing taken declarations with
  | nil =>
    constructor
    · intro h
      cases h
      have hnone : ∀ b ∈ ([] : List (List Declaration)), ∀ d ∈ b, d.name ∉ taken :=
        List.forall_mem_nil _
      exact ⟨[], List.Forall₂.nil, List.Pairwise.nil, hnone, rfl⟩
    · rintro ⟨blocks, hblocks, _, _, rfl⟩
      cases hblocks
      rfl
  | cons tool rest ih =>
    constructor
    · intro h
      obtain ⟨first, scope, more, hfirst, hmore, rfl⟩ := emitTools_cons_ok h
      obtain ⟨hblock, hfree, rfl⟩ := emitTool_iff.mp hfirst
      -- the names of the first block are in use for the others, which keeps them apart from it
      obtain ⟨blocks, hblocks, hpairwise, hafter, rfl⟩ := ih.mp hmore
      obtain ⟨hapart, hothers⟩ := forall_not_mem_after.mp hafter
      exact ⟨first :: blocks, List.Forall₂.cons hblock hblocks,
        List.pairwise_cons.mpr ⟨hapart, hpairwise⟩, List.forall_mem_cons.mpr ⟨hfree, hothers⟩,
        rfl⟩
    · rintro ⟨blocks, hblocks, hpairwise, hfree, rfl⟩
      obtain ⟨first, others, hblock, hrest, rfl⟩ := List.forall₂_cons_left_iff.mp hblocks
      obtain ⟨hapart, hpairwise⟩ := List.pairwise_cons.mp hpairwise
      obtain ⟨hfirst, hothers⟩ := List.forall_mem_cons.mp hfree
      have hmore := ih.mpr
        ⟨others, hrest, hpairwise, forall_not_mem_after.mpr ⟨hapart, hothers⟩, rfl⟩
      rw [emitTools]
      refine Outcome.result_bind_eq_ok.mpr ⟨_, emitTool_iff.mpr ⟨hblock, hfirst, rfl⟩, ?_⟩
      exact Outcome.result_bind_eq_ok.mpr ⟨_, hmore, rfl⟩

/-- A run over tools that refuses clashes adds their blocks to no names. -/
theorem tools_answer_iff {tools : List Tool} {declarations : List Declaration} :
    (declarationsOfTools tools "error").result = .ok declarations ↔
      ∃ blocks, List.Forall₂ Tool.Block tools blocks ∧ blocks.Pairwise Apart ∧
        declarations = blocks.flatten := by
  have hnone : ∀ blocks : List (List Declaration), ∀ b ∈ blocks, ∀ d ∈ b,
      d.name ∉ ([] : List String) := fun _ _ _ _ _ => List.not_mem_nil
  rw [declarationsOfTools_error, emitTools_iff]
  constructor
  · rintro ⟨blocks, hblocks, hapart, _, rfl⟩
    exact ⟨blocks, hblocks, hapart, rfl⟩
  · rintro ⟨blocks, hblocks, hapart, rfl⟩
    exact ⟨blocks, hblocks, hapart, hnone blocks, rfl⟩

/-- Tools in another order have the same blocks in that order. -/
theorem exists_perm_blocks {tools others : List Tool} (h : tools.Perm others)
    {blocks : List (List Declaration)} (hblocks : List.Forall₂ Tool.Block tools blocks) :
    ∃ blocks', blocks.Perm blocks' ∧ List.Forall₂ Tool.Block others blocks' := by
  obtain ⟨blocks', hothers, hperm⟩ := List.perm_comp_forall₂ h.symm hblocks
  exact ⟨blocks', hperm.symm, hothers⟩

/-! ## 4. The head of a block -/

/-- **The head of a block** is the request of the tool; its documentation is that of the parameters
    or else that of the tool, where that is not empty. -/
theorem block_head {tool : Tool} {block : List Declaration} (h : tool.Block block) :
    ∃ schema root rest, Schema.ofJson tool.parameters = .ok schema ∧ block = root :: rest ∧
      root.name = pascal tool.name ++ "Request" ∧
      root.documentation = schema.documentation?.or (present? (some tool.description)) := by
  obtain ⟨scope, h⟩ := block_iff.mp h
  obtain ⟨schema, plain, hschema, hroot, rfl⟩ := emitTool_ok h
  obtain ⟨claimed, scope₁, fields, nested, hclaim, _, rfl⟩ := emitRoot_ok hroot
  have hname := Scope.eq_of_claim_refuse rfl hclaim
  exact ⟨schema, _, nested, hschema, rfl, hname, rfl⟩

/-! ## 5. A run -/

/-- **Tools compose.** A run over tools that refuses clashes answers exactly if it answers for each
    tool alone and no two of these answers declare the same name; then it answers theirs, one after
    the other. So tools in another order have the same blocks in another order. Each block begins
    with the request of its tool, documented by the parameters or else by the tool. -/
theorem tools_compose (tools : List Tool) :
    (∀ declarations, (declarationsOfTools tools "error").result = .ok declarations ↔
      ∃ blocks, List.Forall₂ Tool.Block tools blocks ∧ blocks.Pairwise Apart ∧
        declarations = blocks.flatten) ∧
    (∀ others declarations, tools.Perm others →
      (declarationsOfTools tools "error").result = .ok declarations →
      ∃ blocks blocks', List.Forall₂ Tool.Block tools blocks ∧ declarations = blocks.flatten ∧
        blocks.Perm blocks' ∧ List.Forall₂ Tool.Block others blocks' ∧
        (declarationsOfTools others "error").result = .ok blocks'.flatten) ∧
    ∀ tool ∈ tools, ∀ block, tool.Block block →
      ∃ schema root rest, Schema.ofJson tool.parameters = .ok schema ∧ block = root :: rest ∧
        root.name = pascal tool.name ++ "Request" ∧
        root.documentation = schema.documentation?.or (present? (some tool.description)) := by
  refine ⟨fun declarations => ?_, fun others declarations hperm h => ?_,
    fun tool _ block h => block_head h⟩
  · exact tools_answer_iff
  · obtain ⟨blocks, hblocks, hapart, rfl⟩ := tools_answer_iff.mp h
    obtain ⟨blocks', hperm', hothers⟩ := exists_perm_blocks hperm hblocks
    have hapart' := hapart.perm hperm' Apart.symm
    exact ⟨blocks, blocks', hblocks, rfl, hperm', hothers,
      tools_answer_iff.mpr ⟨blocks', hothers, hapart', rfl⟩⟩

/-- A tool that takes a place, which is a record of its own. -/
def searchTool : Tool :=
  { name := "search flights"
    description := "Finds flights."
    parameters := "\x7b\"type\": \"object\", \"properties\": \x7b\"from\": " ++
      "\x7b\"type\": \"object\", \"properties\": \x7b\"city\": \x7b\x7d\x7d\x7d\x7d\x7d"
    result := ""
    metadata := [] }

/-- Its block. -/
def searchBlock : List Declaration :=
  [⟨"SearchFlightsRequest", some "Finds flights.",
      [⟨"From", "from", ⟨"SearchFlightsRequestFrom", true⟩, none, false⟩]⟩,
    ⟨"SearchFlightsRequestFrom", none, [⟨"City", "city", ⟨"object", true⟩, none, false⟩]⟩]

/-- A tool whose parameters have a description of their own. -/
def bookTool : Tool :=
  { name := "book"
    description := "Books a flight."
    parameters := "\x7b\"type\": \"object\", \"description\": \"A booking.\"\x7d"
    result := ""
    metadata := [] }

/-- Its block. -/
def bookBlock : List Declaration := [⟨"BookRequest", some "A booking.", []⟩]

theorem tools_compose_trip :
    (declarationsOfTools [searchTool, bookTool] "error").result =
        .ok (searchBlock ++ bookBlock) ∧
      (∃ blocks blocks', List.Forall₂ Tool.Block [searchTool, bookTool] blocks ∧
        searchBlock ++ bookBlock = blocks.flatten ∧ blocks.Perm blocks' ∧
        List.Forall₂ Tool.Block [bookTool, searchTool] blocks' ∧
        (declarationsOfTools [bookTool, searchTool] "error").result = .ok blocks'.flatten) ∧
      bookTool.Block bookBlock ∧
      ∃ schema root rest, Schema.ofJson bookTool.parameters = .ok schema ∧
        bookBlock = root :: rest ∧ root.name = pascal "book" ++ "Request" ∧
        root.documentation = schema.documentation?.or (present? (some "Books a flight.")) := by
  have hrun : (declarationsOfTools [searchTool, bookTool] "error").result =
      .ok (searchBlock ++ bookBlock) := by decide +kernel
  have hbook : bookTool.Block bookBlock := by
    unfold Tool.Block
    decide +kernel
  have hperm : [searchTool, bookTool].Perm [bookTool, searchTool] := List.Perm.swap _ _ []
  have hmem : bookTool ∈ [searchTool, bookTool] := by simp
  obtain ⟨_, horder, hhead⟩ := tools_compose [searchTool, bookTool]
  exact ⟨hrun, horder _ _ hperm hrun, hbook, hhead bookTool hmem bookBlock hbook⟩

/-- A tool that is listed twice declares its request twice. -/
example : (declarationsOfTools [bookTool, bookTool] "error").result =
    .error (.clash (.declaration "BookRequest")) := by decide +kernel

end SchemaRecords

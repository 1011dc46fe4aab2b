import SchemaRecords.Proofs.Command.Kept
import SchemaRecords.Proofs.Text.Utf8

/-!
# Writing to a file and printing

* `exists_delivery` -- a request that succeeds has declarations, of which the text is delivered;
* `Delivery.printed_of_ending`, `Delivery.saved_of_ending` -- what it printed, and what it wrote;
* `Delivery.succeeds_iff` -- unless writing is denied, it succeeds exactly if the text is taken;
* `saves_what_is_printed` -- a command line that prints a text and the same one with a file to write:
  the file has the text that was drawn, and it is the text that was printed exactly if that is plain.
-/

namespace SchemaRecords.Command

open Text.Utf8 (refusal?)

variable {world : World} {tree : File.Tree} {request : Request} {report : Report}
  {declarations : List Record.Declaration} {output : String}

/-! ## 1. Requests that succeed -/

/-- A fault is no success. -/
theorem ending_ofFault_ne (tree : File.Tree) (notices : String) (fault : Fault) :
    (Report.ofFault tree notices fault).ending ≠ .status 0 := by
  unfold Report.ofFault
  split
  · nofun
  · split <;> nofun

/-- A request that succeeds has declarations, and their text is delivered. -/
theorem exists_delivery (h : (perform world request).ending = .status 0) :
    ∃ declarations, (draw world request).result = .ok declarations ∧
      Delivery world request declarations (perform world request) := by
  rcases perform_cases world request with ⟨notices, fault, _, hreport⟩ | hdelivery
  · rw [hreport] at h
    exact absurd h (ending_ofFault_ne world.tree notices fault)
  · exact hdelivery

/-- **Without a file to write, the text of the declarations was printed**, and so it was taken. -/
theorem Delivery.printed_of_ending (h : Delivery world request declarations report)
    (hnone : request.output = none) (hend : report.ending = .status 0) :
    report.stdout = Text.shown (request.sourceOf declarations) ∧
      refusal? world.stdout (request.sourceOf declarations) = none := by
  cases h with
  | printed notices _ htaken => exact ⟨rfl, Text.Utf8.refusal?_shown.mp htaken⟩
  | saved notices houtput => cases houtput.symm.trans hnone
  | _ => exact absurd hend (ending_ofFault_ne _ _ _)

/-- **With one, their text was written, and a line was printed.** -/
theorem Delivery.saved_of_ending (h : Delivery world request declarations report)
    (houtput : request.output = some output) (hend : report.ending = .status 0) :
    report.stdout = Text.shown (generated (.ofText output) declarations) ∧
      report.tree = (world.tree.save (.ofText output)
        (Text.Utf8.encode (request.sourceOf declarations))).tree := by
  cases h with
  | printed notices hnone => cases hnone.symm.trans houtput
  | saved notices hsome =>
    cases hsome.symm.trans houtput
    exact ⟨rfl, rfl⟩
  | _ => exact absurd hend (ending_ofFault_ne _ _ _)

/-- **Unless writing is denied, a request succeeds exactly if its text is taken where it goes.** -/
theorem Delivery.succeeds_iff (h : Delivery world request declarations report)
    (hfree : ∀ output, request.output = some output → world.tree.Creatable (.ofText output)) :
    report.ending = .status 0 ↔ Taken world request declarations := by
  refine ⟨fun hend => h.ends_iff.mp (Or.inl hend), fun htaken => ?_⟩
  rcases h.ends_iff.mpr htaken with hend | hend
  · exact hend
  · cases h with
    | printed => rfl
    | saved => rfl
    | denied notices houtput hdenied => exact absurd (hfree _ houtput) hdenied
    | _ => exact absurd (Or.inr hend) not_ends_unencodable

theorem Delivery.succeeds_iff_of_output (h : Delivery world request declarations report)
    (houtput : request.output = some output) (hfree : world.tree.Creatable (.ofText output)) :
    report.ending = .status 0 ↔ refusal? .strict (request.sourceOf declarations) = none ∧
      refusal? world.stdout (File.Path.ofText output).text = none := by
  refine (h.succeeds_iff fun other hother => ?_).trans (taken_iff houtput hfree)
  cases hother.symm.trans houtput
  exact hfree

/-- Every other file is as it was. -/
theorem Delivery.others (h : Delivery world request declarations report)
    (hdrawn : (draw world request).result = .ok declarations)
    (houtput : request.output = some output) (hfree : world.tree.Creatable (.ofText output)) :
    world.tree.KeptBut report.tree (.ofText output) := by
  by_cases hend : report.ending = .status 0
  · obtain ⟨_, _, hothers⟩ := File.Tree.save_saved (hfree.save _)
    rw [(h.saved_of_ending houtput hend).2]
    exact hothers
  · refine (h.spoiled ⟨houtput, hfree, hdrawn, fun htaken => hend ?_⟩).2.2
    exact (h.succeeds_iff_of_output houtput hfree).mpr ((taken_iff houtput hfree).mp htaken)

/-- Where a file can be made, there is no folder. -/
theorem not_isFolder {path : File.Path} (h : tree.Creatable path) :
    tree.isFolder path = false := by
  refine Bool.eq_false_iff.mpr fun hfolder => ?_
  obtain ⟨l, hl, hentry⟩ := File.Tree.isFolder_iff.mp hfolder
  obtain ⟨_, _, rfl⟩ := File.Tree.follow_eq_ok.mp (File.Tree.locate_eq_ok.mp hl).2
  exact h.free hentry

/-! ## 2. Two runs -/

/-- A command line that succeeds without a file to write, and the same one with a file to write, at
    a path at which a file can be made, draw the same declarations and deliver their text. -/
theorem runs_of_added {arguments arguments' : List String}
    (hrequest : Request.ofArguments world.tree arguments = .ok request)
    (hnone : request.output = none) (hend : (run world arguments).ending = .status 0)
    (hadded : Added "--output" output arguments arguments')
    (hlenient : refusal? .lenient output = none) (hnull : Char.ofNat 0 ∉ output.toList)
    (hfree : world.tree.Creatable (.ofText output)) :
    ∃ declarations, (draw world request).result = .ok declarations ∧
      Delivery world request declarations (run world arguments) ∧
      Delivery world { request with output := some output } declarations
        (run world arguments') := by
  have hcontains : output.contains (Char.ofNat 0) = false :=
    String.contains_char_eq.trans (decide_eq_false hnull)
  have hrun : run world arguments = perform world request := by rw [run, hrequest]
  have hrun' : run world arguments' = perform world { request with output := some output } := by
    rw [run, request_added hadded hrequest hnone hlenient hcontains (not_isFolder hfree)]
  obtain ⟨declarations, hdrawn, hdelivery⟩ := exists_delivery (hrun ▸ hend)
  refine ⟨declarations, hdrawn, hrun ▸ hdelivery, hrun' ▸ ?_⟩
  -- what is drawn does not hang on the file
  rcases perform_cases world { request with output := some output } with
    ⟨_, _, hdrawn', _⟩ | ⟨_, hdrawn', hdelivery'⟩
  · cases hdrawn'.symm.trans hdrawn
  · cases hdrawn'.symm.trans hdrawn
    exact hdelivery'

/-- **What is printed and what is saved.** Take a command line that succeeds without a file to
    write. It has a place for one; add that anywhere, with a path that the files can have and at
    which one can be made. Every other file is as it was, and the command line succeeds, too, exactly
    if the text of the declarations has no half and the path none that is not printed; where no half
    is printed, the text has none. The file then has the text, and a line tells of the path and the
    number of declarations. The text is the one that was printed, and the line is printed as it is,
    exactly if they are plain: only control sequences are lost in print. -/
theorem saves_what_is_printed {arguments : List String}
    (hrequest : Request.ofArguments world.tree arguments = .ok request)
    (hnone : request.output = none) (hend : (run world arguments).ending = .status 0)
    (hlenient : refusal? .lenient output = none) (hnull : Char.ofNat 0 ∉ output.toList)
    (hfree : world.tree.Creatable (.ofText output)) :
    (∃ arguments', Added "--output" output arguments arguments') ∧
    ∀ arguments', Added "--output" output arguments arguments' →
      ∃ declarations, (draw world request).result = .ok declarations ∧
        (run world arguments).stdout = Text.shown (Source.render request.space declarations) ∧
        world.tree.KeptBut (run world arguments').tree (.ofText output) ∧
        ((run world arguments').ending = .status 0 ↔
          refusal? .strict (Source.render request.space declarations) = none ∧
            refusal? world.stdout (File.Path.ofText output).text = none) ∧
        (world.stdout = .strict →
          refusal? .strict (Source.render request.space declarations) = none) ∧
        ((run world arguments').ending = .status 0 →
          (run world arguments').tree.read (.ofText output) =
            .ok (Text.Utf8.encode (Source.render request.space declarations)) ∧
          (run world arguments').stdout = Text.shown (generated (.ofText output) declarations) ∧
          ((run world arguments').tree.read (.ofText output) =
              .ok (Text.Utf8.encode (run world arguments).stdout) ↔
            Text.Plain (Source.render request.space declarations).toList) ∧
          ((run world arguments').stdout = generated (.ofText output) declarations ↔
            Text.Plain (generated (.ofText output) declarations).toList)) := by
  refine ⟨exists_added hrequest "--output" output, fun arguments' hadded => ?_⟩
  obtain ⟨declarations, hdrawn, hdelivery, hdelivery'⟩ :=
    runs_of_added hrequest hnone hend hadded hlenient hnull hfree
  obtain ⟨hprinted, htaken⟩ := hdelivery.printed_of_ending hnone hend
  refine ⟨declarations, hdrawn, hprinted, hdelivery'.others hdrawn rfl hfree,
    hdelivery'.succeeds_iff_of_output rfl hfree, fun hstrict => hstrict ▸ htaken, fun hend' => ?_⟩
  obtain ⟨htold, htree⟩ := hdelivery'.saved_of_ending rfl hend'
  obtain ⟨_, hread, _⟩ := File.Tree.save_saved (hfree.save _)
  rw [hprinted, htold, htree]
  refine ⟨hread, rfl, ?_, Text.shown_eq_self⟩
  rw [hread, Except.ok.injEq, Text.Utf8.encode_inj, eq_comm]
  exact Text.shown_eq_self

/-! ## 3. A text that is not plain -/

/-- A document whose description has control sequences: they make a word bold, and end it. -/
def boldText : String := "\x7b\"description\":\"\\u001b[1mBold\\u001b[0m\"\x7d"

/-- A folder with that document. -/
def bold : World :=
  { tree := ⟨["work"], [(["work"], .folder),
      (["work", "s.json"], .file (Text.Utf8.encode boldText))]⟩
    web := ⟨[], true⟩ }

/-- The arguments that print its records. -/
def boldArguments : List String := ["schema", "s.json", "--name", "X"]

/-- The arguments that write them to a file in a folder that is still to be made. -/
def boldArgumentsTo : List String :=
  ["schema", "s.json", "--output", "made/out.cs", "--name", "X"]

/-- What is asked for without a file. -/
def boldRequest : Request := ⟨false, .schema "X", "s.json", "Generated", .refuse, none⟩

/-- The one record there is. -/
def boldRecord : Record.Declaration := ⟨"X", some "\x1b[1mBold\x1b[0m", []⟩

theorem request_bold : Request.ofArguments bold.tree boldArguments = .ok boldRequest := by
  decide

theorem added_bold : Added "--output" "made/out.cs" boldArguments boldArgumentsTo :=
  .intro .schema [] ["s.json"] ["--name", "X"] (.inl .nil) (.other rfl rfl .nil)

theorem creatable_bold : bold.tree.Creatable (.ofText "made/out.cs") :=
  @File.Tree.creatable_of_save _ _ [] (by decide)

theorem readFile_bold : readFile bold.tree "s.json" = .ok ⟨boldText, false⟩ :=
  (readFile_eq (by decide) (by decide) _).trans (by decide +kernel)

theorem draw_bold : (draw bold boldRequest).result = .ok [boldRecord] := by
  have hvalue : Document.Value.ofJson boldText =
      .ok (.mapping [(.text "description", .text "\x1b[1mBold\x1b[0m")]) := by decide +kernel
  exact draw_schema rfl (loadDocument_file (by decide) readFile_bold hvalue) (by decide)

/-- The text of the record has no halves. -/
theorem taken_bold : refusal? .strict (Source.render "Generated" [boldRecord]) = none :=
  refusal?_unlines.mpr (by decide +kernel)

theorem run_bold : (run bold boldArguments).ending = .status 0 := by
  unfold run
  rw [request_bold]
  rcases perform_cases bold boldRequest with ⟨_, _, hdrawn, _⟩ | ⟨_, hdrawn, hdelivery⟩
  · cases hdrawn.symm.trans draw_bold
  · cases hdrawn.symm.trans draw_bold
    exact (hdelivery.succeeds_iff nofun).mpr taken_bold

/-- A source is plain only if each of its lines is. -/
theorem plain_of_mem_lines {lines : List String} {line : String} (hmem : line ∈ lines)
    (h : Text.Plain (Source.unlines lines).toList) : Text.Plain line.toList := by
  obtain ⟨before, after, rfl⟩ := List.append_of_mem hmem
  rw [unlines_append, unlines_cons, String.toList_append, String.toList_append] at h
  exact h.infix

/-- The text of the record has the control sequences of the description. -/
theorem not_plain_bold : ¬Text.Plain (Source.render "Generated" [boldRecord]).toList := by
  intro h
  have hlines : Source.documentationLines boldRecord.documentation =
      ["\x1b[1mBold\x1b[0m"] := by decide
  have hmem : Source.documentLine "\x1b[1mBold\x1b[0m" ∈
      (Source.View.ofDeclarations "Generated" [boldRecord]).lines := by
    simp [Source.View.lines, Source.View.ofDeclarations, Source.DeclarationView.of,
      Source.DeclarationView.render, Source.summary, hlines]
  have hline := Text.dropSequences_eq_self.mpr (plain_of_mem_lines hmem h)
  revert hline
  decide

theorem saves_what_is_printed_bold :
    (run bold boldArgumentsTo).ending = .status 0 ∧
      (run bold boldArgumentsTo).tree.read (.ofText "made/out.cs") =
        .ok (Text.Utf8.encode (Source.render "Generated" [boldRecord])) ∧
      (run bold boldArgumentsTo).tree.entry ["work", "s.json"] =
        some (.file (Text.Utf8.encode boldText)) := by
  obtain ⟨declarations, hdrawn, _, hothers, hsucceeds, _, hsaved⟩ :=
    (saves_what_is_printed request_bold rfl run_bold (by decide) (by decide)
      creatable_bold).2 _ added_bold
  cases draw_bold.symm.trans hdrawn
  have hend := hsucceeds.mpr ⟨taken_bold, by decide⟩
  exact ⟨hend, (hsaved hend).1, (hothers _ (by decide) _).mpr (by decide)⟩

/-- **The file has control sequences, and they are not printed.** -/
theorem bold_lost_in_print :
    Request.ofArguments bold.tree boldArguments = .ok boldRequest ∧
      Added "--output" "made/out.cs" boldArguments boldArgumentsTo ∧
      bold.tree.Creatable (.ofText "made/out.cs") ∧
      (run bold boldArguments).ending = .status 0 ∧
      (run bold boldArgumentsTo).ending = .status 0 ∧
      (run bold boldArgumentsTo).tree.read (.ofText "made/out.cs") ≠
        .ok (Text.Utf8.encode (run bold boldArguments).stdout) := by
  obtain ⟨declarations, hdrawn, hdelivery, hdelivery'⟩ :=
    runs_of_added request_bold rfl run_bold added_bold (by decide) (by decide)
      creatable_bold
  cases draw_bold.symm.trans hdrawn
  have hend := (hdelivery'.succeeds_iff_of_output rfl creatable_bold).mpr ⟨taken_bold, by decide⟩
  refine ⟨request_bold, added_bold, creatable_bold, run_bold, hend, fun h => ?_⟩
  obtain ⟨_, hread, _⟩ := File.Tree.save_saved (creatable_bold.save _)
  rw [(hdelivery.printed_of_ending rfl run_bold).1, (hdelivery'.saved_of_ending rfl hend).2, hread,
    Except.ok.injEq, Text.Utf8.encode_inj] at h
  exact not_plain_bold (Text.shown_eq_self.mp h.symm)

end SchemaRecords.Command

import SchemaRecords.Proofs.Command.Added
import SchemaRecords.Proofs.Command.Ending

/-!
# What a run leaves of the files

* `Kept` -- two trees with the same files, whatever folders they have; `KeptBut` -- with the same
  ones but for one path;
* `Spoils` -- a request of which the text is refused once its file can be opened: it has a half, or
  the path has one that is not printed;
* `Delivery.kept`, `Delivery.spoiled` -- a text that is not delivered has kept the files, unless it
  is of such a request: then the file is empty, or has the text that is not told of;
* `run_keeps_files` -- **so it is with every run**, and a run without a file to write leaves the tree
  as it was; `half_spoils_file` -- a run with one does not.

There are four places where a run ends: in front of the work, in a fault of drawing, in a denial to
write, and with the text. Only the last two have touched the tree, and the denial at most by
folders.
-/

namespace SchemaRecords

namespace File

/-- **Every file of one tree is a file of the other, with the same octets.** -/
def Tree.Kept (t t' : Tree) : Prop :=
  ∀ l octets, t'.entry l = some (.file octets) ↔ t.entry l = some (.file octets)

/-- **Every file of one tree but that at a path is a file of the other**, with the same octets. -/
def Tree.KeptBut (t t' : Tree) (path : Path) : Prop :=
  ∀ l ≠ goal (t.start path) path.names, ∀ octets,
    t'.entry l = some (.file octets) ↔ t.entry l = some (.file octets)

theorem Tree.kept_of_eq {t t' : Tree} (h : t' = t) : t.Kept t' := fun _ _ => by rw [h]

theorem Tree.Grown.kept {way : List Location} {t t' : Tree} (h : Grown way t t') : t.Kept t' :=
  h.file_iff

end File

namespace Command

open Text.Utf8 (refusal?)

variable {tree : File.Tree} {world : World} {request : Request} {arguments : List String}
  {declarations : List Record.Declaration} {report : Report} {output : String}

/-! ## 1. Reports -/

/-- The ways in which a run can end. -/
def Ending.Told (ending : Ending) : Prop :=
  ending = .status 0 ∨ ending = .status 1 ∨ ending = .status 2 ∨ ∃ fault, ending = .fault fault

/-- A report that ends in one of these ways, and has nothing printed unless it is of a success. -/
structure Report.Quiet (report : Report) : Prop where
  told : report.ending.Told
  silent : report.ending ≠ .status 0 → report.stdout = ""

theorem quiet_ofStop (tree : File.Tree) (stop : Stop) : (Report.ofStop tree stop).Quiet := by
  cases stop with
  | noArguments => exact ⟨.inr (.inr (.inl rfl)), fun _ => rfl⟩
  | help page => exact ⟨.inl rfl, fun h => absurd rfl h⟩
  | misused page fault => exact ⟨.inr (.inr (.inl rfl)), fun _ => rfl⟩
  | broken fault => exact ⟨.inr (.inr (.inr ⟨fault, rfl⟩)), fun _ => rfl⟩

theorem quiet_ofFault (left : File.Tree) (notices : String) (fault : Fault) :
    (Report.ofFault left notices fault).Quiet := by
  unfold Report.ofFault
  split
  · exact ⟨.inr (.inl rfl), fun _ => rfl⟩
  · split
    · exact ⟨.inr (.inl rfl), fun _ => rfl⟩
    · exact ⟨.inr (.inr (.inr ⟨fault, rfl⟩)), fun _ => rfl⟩

theorem tree_ofStop (tree : File.Tree) (stop : Stop) : (Report.ofStop tree stop).tree = tree := by
  cases stop <;> rfl

/-- What becomes of a fault hangs on the fault alone; the files are those of the tree it left. -/
theorem tree_ofFault (left : File.Tree) (notices : String) (fault : Fault) :
    (Report.ofFault left notices fault).tree = left := by
  unfold Report.ofFault
  split
  · rfl
  · split <;> rfl

/-! ## 2. Work -/

theorem Delivery.quiet (h : Delivery world request declarations report) : report.Quiet := by
  cases h with
  | printed => exact ⟨.inl rfl, fun h => absurd rfl h⟩
  | saved => exact ⟨.inl rfl, fun h => absurd rfl h⟩
  | _ => exact quiet_ofFault _ _ _

/-- **A request whose file is opened in vain**: one can be made at the path, the declarations are
    drawn, and then their text, or the path where it is told of, is refused for a half. -/
structure Spoils (world : World) (request : Request) (output : String)
    (declarations : List Record.Declaration) : Prop where
  asked : request.output = some output
  free : world.tree.Creatable (.ofText output)
  drawn : (draw world request).result = .ok declarations
  refused : ¬Taken world request declarations

/-- **A text that is not delivered has kept the files**, unless its file was opened in vain. -/
theorem Delivery.kept (h : Delivery world request declarations report)
    (hdrawn : (draw world request).result = .ok declarations)
    (hfailed : report.ending ≠ .status 0) :
    world.tree.Kept report.tree ∨ ∃ output, Spoils world request output declarations := by
  cases h with
  | unprinted notices =>
    exact Or.inl (File.Tree.kept_of_eq (tree_ofFault _ _ _))
  | printed => exact absurd rfl hfailed
  | denied notices houtput hdenied hgrown =>
    rw [tree_ofFault]
    exact Or.inl hgrown.kept
  | emptied notices houtput hfree hrefused =>
    refine Or.inr ⟨_, houtput, hfree, hdrawn, fun htaken => ?_⟩
    rw [((taken_iff houtput hfree).mp htaken).1] at hrefused
    cases hrefused
  | untold notices houtput hfree htaken hrefused =>
    refine Or.inr ⟨_, houtput, hfree, hdrawn, fun htaken => ?_⟩
    rw [refusal?_generated.mpr ((taken_iff houtput hfree).mp htaken).2] at hrefused
    cases hrefused
  | saved => exact absurd rfl hfailed

/-- What a file has that was opened in vain: nothing where the text was refused, and the text where
    only its path was. -/
def spoiledOctets (source : String) : List UInt8 :=
  if (refusal? .strict source).isSome then [] else Text.Utf8.encode source

theorem spoiledOctets_of_refused {source : String} (h : refusal? .strict source ≠ none) :
    spoiledOctets source = [] := by
  rw [spoiledOctets, if_pos (Option.isSome_iff_ne_none.mpr h)]

theorem spoiledOctets_of_taken {source : String} (h : refusal? .strict source = none) :
    spoiledOctets source = Text.Utf8.encode source := by
  rw [spoiledOctets, h, Option.isSome_none, if_neg Bool.false_ne_true]

/-- **Where a file was opened in vain, the run is broken off**; the file has nothing or the text, and
    every other file is as it was. -/
theorem Delivery.spoiled (h : Delivery world request declarations report)
    (hspoils : Spoils world request output declarations) :
    (∃ refusal, report.ending = .fault (.unencodable refusal)) ∧
      report.tree.read (.ofText output) = .ok (spoiledOctets (request.sourceOf declarations)) ∧
      world.tree.KeptBut report.tree (.ofText output) := by
  have hasked := hspoils.asked
  have hends := mt h.ends_iff.mp hspoils.refused
  cases h with
  | unprinted notices hnone => cases hnone.symm.trans hasked
  | printed notices hnone => cases hnone.symm.trans hasked
  | denied notices houtput hdenied =>
    cases houtput.symm.trans hasked
    exact absurd hspoils.free hdenied
  | emptied notices houtput hfree hrefused =>
    cases houtput.symm.trans hasked
    obtain ⟨_, hread, hothers⟩ := File.Tree.save_saved (hfree.save [])
    rw [tree_ofFault, spoiledOctets_of_refused (hrefused ▸ Option.some_ne_none _)]
    exact ⟨⟨_, rfl⟩, hread, hothers⟩
  | untold notices houtput hfree htaken =>
    cases houtput.symm.trans hasked
    obtain ⟨_, hread, hothers⟩ := File.Tree.save_saved (hfree.save _)
    rw [tree_ofFault, spoiledOctets_of_taken htaken]
    exact ⟨⟨_, rfl⟩, hread, hothers⟩
  | saved => exact absurd (Or.inl rfl) hends

/-- Without a file to write, the tree is as it was. -/
theorem Delivery.tree_eq (h : Delivery world request declarations report)
    (hnone : request.output = none) : report.tree = world.tree := by
  cases h with
  | unprinted notices => exact tree_ofFault _ _ _
  | printed => rfl
  | denied notices houtput => cases houtput.symm.trans hnone
  | emptied notices houtput => cases houtput.symm.trans hnone
  | untold notices houtput => cases houtput.symm.trans hnone
  | saved notices houtput => cases houtput.symm.trans hnone

/-- A request ends in a fault of drawing, which has touched no tree, or with the text of the
    declarations that were drawn. -/
theorem perform_cases (world : World) (request : Request) :
    (∃ notices fault, (draw world request).result = .error fault ∧
        perform world request = .ofFault world.tree notices fault) ∨
      ∃ declarations, (draw world request).result = .ok declarations ∧
        Delivery world request declarations (perform world request) := by
  unfold perform
  dsimp only
  cases hdrawn : (draw world request).result with
  | error fault => exact Or.inl ⟨_, fault, rfl, rfl⟩
  | ok declarations => exact Or.inr ⟨declarations, rfl, delivery_deliver world request _ _⟩

/-! ## 3. Runs -/

/-- **The ways in which a run goes**: it stops in front of its work, it ends in a fault of drawing,
    and neither has touched the tree, or it delivers a text. -/
theorem run_cases (world : World) (arguments : List String) :
    (∃ stop, run world arguments = .ofStop world.tree stop) ∨
      (∃ notices fault, run world arguments = .ofFault world.tree notices fault) ∨
      ∃ request declarations, Request.ofArguments world.tree arguments = .ok request ∧
        (draw world request).result = .ok declarations ∧
          Delivery world request declarations (run world arguments) := by
  unfold run
  cases hrequest : Request.ofArguments world.tree arguments with
  | error stop => exact Or.inl ⟨stop, rfl⟩
  | ok request =>
    rcases perform_cases world request with ⟨notices, fault, _, hreport⟩ |
      ⟨declarations, hdrawn, hdelivery⟩
    · exact Or.inr (Or.inl ⟨notices, fault, hreport⟩)
    · exact Or.inr (Or.inr ⟨request, declarations, rfl, hdrawn, hdelivery⟩)

theorem run_quiet (world : World) (arguments : List String) : (run world arguments).Quiet := by
  rcases run_cases world arguments with ⟨stop, hrun⟩ | ⟨notices, fault, hrun⟩ |
    ⟨_, _, _, _, hdelivery⟩
  · rw [hrun]
    exact quiet_ofStop world.tree stop
  · rw [hrun]
    exact quiet_ofFault world.tree notices fault
  · exact hdelivery.quiet

/-- **A run that fails keeps the files**, unless its file was opened in vain. -/
theorem run_kept (hfailed : (run world arguments).ending ≠ .status 0) :
    world.tree.Kept (run world arguments).tree ∨ ∃ request output declarations,
      Request.ofArguments world.tree arguments = .ok request ∧
        Spoils world request output declarations := by
  rcases run_cases world arguments with ⟨stop, hrun⟩ | ⟨notices, fault, hrun⟩ |
    ⟨request, declarations, hrequest, hdrawn, hdelivery⟩
  · rw [hrun]
    exact Or.inl (File.Tree.kept_of_eq (tree_ofStop world.tree stop))
  · rw [hrun]
    exact Or.inl (File.Tree.kept_of_eq (tree_ofFault world.tree notices fault))
  · exact (hdelivery.kept hdrawn hfailed).imp_right fun ⟨output, hspoils⟩ =>
      ⟨request, output, declarations, hrequest, hspoils⟩

/-- Without a file to write that is in effect, a run leaves the tree as it was. -/
theorem run_tree_eq (hnone : ∀ request, Request.ofArguments world.tree arguments = .ok request →
    request.output = none) : (run world arguments).tree = world.tree := by
  rcases run_cases world arguments with ⟨stop, hrun⟩ | ⟨notices, fault, hrun⟩ |
    ⟨request, _, hrequest, _, hdelivery⟩
  · rw [hrun]
    exact tree_ofStop world.tree stop
  · rw [hrun]
    exact tree_ofFault world.tree notices fault
  · exact hdelivery.tree_eq (hnone request hrequest)

/-- **A run whose file was opened in vain is broken off**, and has touched that file alone. -/
theorem run_spoiled (hrequest : Request.ofArguments world.tree arguments = .ok request)
    (hspoils : Spoils world request output declarations) :
    (∃ refusal, (run world arguments).ending = .fault (.unencodable refusal)) ∧
      (run world arguments).tree.read (.ofText output) =
        .ok (spoiledOctets (request.sourceOf declarations)) ∧
      world.tree.KeptBut (run world arguments).tree (.ofText output) := by
  have hrun : run world arguments = perform world request := by rw [run, hrequest]
  rw [hrun]
  rcases perform_cases world request with ⟨_, _, hdrawn, _⟩ | ⟨_, hdrawn, hdelivery⟩
  · cases hdrawn.symm.trans hspoils.drawn
  · cases hdrawn.symm.trans hspoils.drawn
    exact hdelivery.spoiled hspoils

/-- **What a run leaves of the files.** It ends with a status or with a fault, and has nothing printed
    unless it succeeds. One that does not succeed keeps every file, or it is of a request whose file
    was opened in vain; those are broken off, the file has nothing or the text that was drawn, and
    every other file is as it was. Whether or not it succeeds, without a file to write that is in
    effect a run leaves the tree as it was. -/
theorem run_keeps_files (world : World) (arguments : List String) :
    (run world arguments).ending.Told ∧
    ((run world arguments).ending ≠ .status 0 → (run world arguments).stdout = "" ∧
      (world.tree.Kept (run world arguments).tree ∨ ∃ request output declarations,
        Request.ofArguments world.tree arguments = .ok request ∧
          Spoils world request output declarations)) ∧
    (∀ request output declarations, Request.ofArguments world.tree arguments = .ok request →
      Spoils world request output declarations →
        (∃ refusal, (run world arguments).ending = .fault (.unencodable refusal)) ∧
        (run world arguments).tree.read (.ofText output) =
          .ok (spoiledOctets (request.sourceOf declarations)) ∧
        world.tree.KeptBut (run world arguments).tree (.ofText output)) ∧
    ((∀ request, Request.ofArguments world.tree arguments = .ok request → request.output = none) →
      (run world arguments).tree = world.tree) := by
  refine ⟨(run_quiet world arguments).told, fun hfailed => ?_, fun _ _ _ => run_spoiled,
    run_tree_eq⟩
  exact ⟨(run_quiet world arguments).silent hfailed, run_kept hfailed⟩

/-- The arguments by which the records of a document are written to a file. -/
def writing (source output : String) : List String :=
  ["schema", source, "--name", "X", "--output", output]

/-- What they ask for. -/
def writingRequest (source output : String) : Request :=
  ⟨false, .schema "X", source, "Generated", .refuse, some output⟩

theorem request_writing {source output : String}
    (hrequest : Request.ofArguments tree ["schema", source, "--name", "X"] =
      .ok ⟨false, .schema "X", source, "Generated", .refuse, none⟩)
    (hother : readOne (Page.verb Verb.schema).switches source = .ok .other)
    (htaken : refusal? .lenient output = none) (hnull : Char.ofNat 0 ∉ output.toList)
    (hfolder : tree.isFolder (.ofText output) = false) :
    Request.ofArguments tree (writing source output) =
      .ok (writingRequest source output) := by
  have hadded : Added "--output" output ["schema", source, "--name", "X"]
      (writing source output) :=
    .intro .schema [] [source, "--name", "X"] [] (.inl .nil) (.other rfl hother (.asking rfl .nil))
  have hcontains : output.contains (Char.ofNat 0) = false :=
    String.contains_char_eq.trans (decide_eq_false hnull)
  exact request_added hadded hrequest rfl htaken hcontains hfolder

/-- The arguments of a run that is to write below a file, past a folder that is still to be made. -/
def belowFile : List String := writing "empty.json" "new/../s.json/out.cs"

theorem request_belowFile : Request.ofArguments twoFiles.tree belowFile =
    .ok (writingRequest "empty.json" "new/../s.json/out.cs") :=
  request_writing request_empty (by decide) (by decide) (by decide) (by decide)

/-- The folder is made, then the file on the way denies the rest. -/
theorem save_belowFile (octets : List UInt8) :
    twoFiles.tree.save (.ofText "new/../s.json/out.cs") octets =
      ⟨twoFiles.tree.set ["work", "new"] .folder, some ⟨.exists, .ofText "new/../s.json"⟩⟩ := by
  have hfolder : twoFiles.tree.ensureFolder (File.Path.ofText "new/../s.json/out.cs").parent =
      ⟨twoFiles.tree.set ["work", "new"] .folder, some ⟨.exists, .ofText "new/../s.json"⟩⟩ := by
    decide
  rw [File.Tree.save, hfolder]
  rfl

/-- **A run that is denied to write leaves a folder that it made**, and nothing else. -/
theorem run_keeps_files_belowFile :
    (run twoFiles belowFile).ending = .status 1 ∧ (run twoFiles belowFile).stdout = "" ∧
      twoFiles.tree.Kept (run twoFiles belowFile).tree ∧
      (run twoFiles belowFile).tree.entry ["work", "new"] = some .folder := by
  have hrun : ∃ told, run twoFiles belowFile =
      ⟨.status 1, "", told, twoFiles.tree.set ["work", "new"] .folder⟩ := by
    rw [run, request_belowFile]
    dsimp only [writingRequest]
    rw [perform, draw_empty]
    dsimp only
    unfold deliver write
    dsimp only
    rw [save_belowFile]
    exact ⟨_, rfl⟩
  obtain ⟨told, hrun⟩ := hrun
  have hending : (run twoFiles belowFile).ending = .status 1 := by rw [hrun]
  have hfailed : (run twoFiles belowFile).ending ≠ .status 0 := by
    rw [hending]
    decide
  obtain ⟨hsilent, hkept⟩ := (run_keeps_files twoFiles belowFile).2.1 hfailed
  refine ⟨hending, hsilent, hkept.resolve_right ?_, by rw [hrun]; rfl⟩
  -- no file can be made below another
  rintro ⟨request, output, declarations, hrequest, hspoils⟩
  cases request_belowFile.symm.trans hrequest
  cases hspoils.asked
  have hsaved := hspoils.free.save []
  rw [save_belowFile] at hsaved
  cases hsaved

/-! ## 4. Files that are opened in vain -/

/-- A document whose description is the first half of a pair. -/
def halfText : String := "\x7b\"description\":\"\\ud800\"\x7d"

/-- A folder with that document, an empty one, and a file that may be written. -/
def halves : World :=
  { tree := ⟨["work"], [(["work"], .folder), (["work", "empty.json"], .file [0x7B, 0x7D]),
      (["work", "half.json"], .file (Text.Utf8.encode halfText)),
      (["work", "out.cs"], .file (Text.Utf8.encode "kept\n"))]⟩
    web := ⟨[], true⟩ }

/-- The half. -/
def half : String := String.singleton (Text.ofNumber 0xD800)

/-- A name of a file that ends in an octet that is no character. -/
def brokenName : String := String.ofList ['n', 'e', 'w', Text.ofNumber 0xDC80]

theorem refused_half : refusal? .strict (Source.render "Generated" [⟨"X", some half, []⟩]) ≠ none :=
  mt refusal?_unlines.mp (by decide)

theorem spoils_half :
    Spoils halves (writingRequest "half.json" "out.cs") "out.cs" [⟨"X", some half, []⟩] := by
  have hfree : halves.tree.Creatable (.ofText "out.cs") :=
    @File.Tree.creatable_of_save _ _ [] (by decide)
  have hfile : readFile halves.tree "half.json" = .ok ⟨halfText, false⟩ :=
    (readFile_eq (by decide) (by decide) _).trans (by decide)
  have hvalue : Document.Value.ofJson halfText =
      .ok (.mapping [(.text "description", .text half)]) := by decide +kernel
  exact ⟨rfl, hfree,
    draw_schema rfl (loadDocument_file (by decide) hfile hvalue) (by decide),
    fun htaken => refused_half ((taken_iff rfl hfree).mp htaken).1⟩

theorem spoils_name : Spoils halves (writingRequest "empty.json" brokenName) brokenName
    [⟨"X", none, []⟩] := by
  have hfree : halves.tree.Creatable (.ofText brokenName) :=
    @File.Tree.creatable_of_save _ _ [] (by decide)
  have hfile : readFile halves.tree "empty.json" = .ok ⟨"\x7b\x7d", false⟩ :=
    (readFile_eq (by decide) (by decide) _).trans (by decide)
  have hvalue : Document.Value.ofJson "\x7b\x7d" = .ok (.mapping []) := by decide
  have hrefused : refusal? .strict (File.Path.ofText brokenName).text ≠ none := by
    decide
  exact ⟨rfl, hfree,
    draw_schema rfl (loadDocument_file (by decide) hfile hvalue) (by decide),
    fun htaken => hrefused ((taken_iff rfl hfree).mp htaken).2⟩

/-- **A run that fails empties a file, and another leaves one that is new**: the description of the
    first has a half, which is found when the file is open; the path of the second has one, which is
    found when the file is written and is told of. -/
theorem half_spoils_file :
    (∃ refusal, (run halves (writing "half.json" "out.cs")).ending =
      .fault (.unencodable refusal)) ∧
    halves.tree.read (.ofText "out.cs") = .ok (Text.Utf8.encode "kept\n") ∧
    (run halves (writing "half.json" "out.cs")).tree.read (.ofText "out.cs") = .ok [] ∧
    (∃ refusal, (run halves (writing "empty.json" brokenName)).ending =
      .fault (.unencodable refusal)) ∧
    halves.tree.entry ["work", brokenName] = none ∧
    (run halves (writing "empty.json" brokenName)).tree.read (.ofText brokenName) =
      .ok (Text.Utf8.encode (Source.render "Generated" [⟨"X", none, []⟩])) := by
  obtain ⟨hhalf, hemptied, _⟩ := run_spoiled (request_writing (by decide) (by decide) (by decide)
    (by decide) (by decide)) spoils_half
  obtain ⟨hname, hwritten, _⟩ := run_spoiled (request_writing (by decide) (by decide) (by decide)
    (by decide) (by decide)) spoils_name
  exact ⟨hhalf, by decide,
    hemptied.trans (congrArg Except.ok (spoiledOctets_of_refused refused_half)), hname,
    by decide, hwritten.trans (congrArg Except.ok (spoiledOctets_of_taken taken_empty))⟩

end Command

end SchemaRecords

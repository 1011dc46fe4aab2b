import SchemaRecords.Load
import SchemaRecords.Proofs.Document.Equality
import SchemaRecords.Proofs.Text.Lines
import SchemaRecords.Proofs.Text.Utf8

/-!
# Pages and files of one name

A page without a content type is read in the format that the end of its address tells, and a file in
the one that its suffix tells.

* `suffixOf_append`, `suffixOf_suffix` -- the suffix of a name is what is put behind something;
* `Misjudged`, `yamlPage_eq_iff` -- the names by which a page is in another format than a file;
* `Fault.kind`, `LoadedAlike` -- the same document, or faults of one kind; `Fault.toldOf`,
  `documentOf_toldOf` -- a text holds the same for every source, but that a fault names it;
* `OneText` -- a page and a file of one name and one text; `OneText.loadPage`, `OneText.loadFile`;
* `page_file_alike` -- **they are alike, but for misjudged names and texts that the two formats read
  differently**; `capital_page_not_alike` -- and for those they are not.
-/

namespace SchemaRecords

open Document

/-! ## 1. Suffixes of names -/

namespace File.Path

/-- A name has the suffix that is put behind something, -/
theorem suffixOf_append {front extension : List Char} (hfront : front ≠ []) (hne : extension ≠ [])
    (hdot : '.' ∉ extension) : suffixOf (front ++ '.' :: extension) = '.' :: extension := by
  have htaken : ((front ++ '.' :: extension).reverse.takeWhile (· != '.')).reverse = extension := by
    rw [List.reverse_append, List.reverse_cons, List.append_assoc, List.takeWhile_append_of_pos]
    · rw [List.singleton_append, List.takeWhile_cons_of_neg (by decide), List.append_nil,
        List.reverse_reverse]
    · intro c hc
      exact bne_iff_ne.mpr fun e => hdot (e ▸ List.mem_reverse.mp hc)
  have hlength := List.length_pos_of_ne_nil hfront
  unfold suffixOf
  dsimp only
  rw [htaken, if_neg]
  simp only [List.length_append, List.length_cons, Bool.or_eq_true, List.isEmpty_iff,
    decide_eq_true_eq, not_or]
  exact ⟨hne, by omega⟩

/-- and ends with its suffix. -/
theorem suffixOf_suffix (name : List Char) : suffixOf name <:+ name := by
  unfold suffixOf
  dsimp only
  split
  · exact List.nil_suffix
  · rename_i hlong
    have hparts := List.takeWhile_append_dropWhile (p := (· != '.')) (l := name.reverse)
    have hname : (name.reverse.dropWhile (· != '.')).reverse ++
        (name.reverse.takeWhile (· != '.')).reverse = name := by
      rw [← List.reverse_append, hparts, List.reverse_reverse]
    cases hbefore : name.reverse.dropWhile (· != '.') with
    | nil =>
      rw [hbefore, List.reverse_nil, List.nil_append] at hname
      rw [hname] at hlong
      simp at hlong
    | cons c front =>
      have hhead := List.head?_dropWhile_not (· != '.') name.reverse
      rw [hbefore] at hhead hname
      obtain rfl : c = '.' := by simpa using hhead
      rw [List.reverse_cons, List.append_assoc] at hname
      exact ⟨front.reverse, hname⟩

end File.Path

/-- The suffix of a name: the part from its last dot on, unless that is all of it. -/
def suffixText (name : String) : String := String.ofList (File.Path.suffixOf name.toList)

/-- A name ends with a suffix of YAML files exactly if it is one, or this is its suffix. -/
theorem endsWith_yamlSuffix_iff {name word : String} (hword : word ∈ yamlSuffixes) :
    Text.endsWith word name = true ↔ name = word ∨ suffixText name = word := by
  obtain ⟨extension, hchars, hne, hdot⟩ : ∃ extension, word.toList = '.' :: extension ∧
      extension ≠ [] ∧ '.' ∉ extension := by
    rcases List.mem_cons.mp hword with rfl | hword
    · exact ⟨['y', 'a', 'm', 'l'], rfl, by decide, by decide⟩
    · rw [List.mem_singleton.mp hword]
      exact ⟨['y', 'm', 'l'], rfl, by decide, by decide⟩
  have hsuffix : suffixText name = word ↔ File.Path.suffixOf name.toList = word.toList := by
    rw [suffixText, ← String.toList_inj, String.toList_ofList]
  rw [Text.endsWith, List.isSuffixOf_iff_suffix, hsuffix, ← String.toList_inj, hchars]
  constructor
  · rintro ⟨front, hname⟩
    cases front with
    | nil => exact Or.inl hname.symm
    | cons c front =>
      rw [← hname]
      exact Or.inr (File.Path.suffixOf_append (List.cons_ne_nil c front) hne hdot)
  · rintro (hname | hsuffix)
    · rw [hname]
    · rw [← hsuffix]
      exact File.Path.suffixOf_suffix name.toList

/-- What stands behind the last slash of an address ends with a suffix as the address does. -/
theorem endsWith_behind {front name word : String} (hword : '/' ∉ word.toList) :
    Text.endsWith word (front ++ "/" ++ name) = Text.endsWith word name := by
  rw [Bool.eq_iff_iff, Text.endsWith, Text.endsWith, List.isSuffixOf_iff_suffix,
    List.isSuffixOf_iff_suffix, String.toList_append, String.toList_append, List.append_assoc]
  constructor
  · intro h
    rcases List.suffix_or_suffix_of_suffix h (List.suffix_append front.toList _) with h | h
    · rcases List.suffix_cons_iff.mp h with h | h
      · exact absurd (h ▸ List.mem_cons_self) hword
      · exact h
    · exact absurd (h.subset List.mem_cons_self) hword
  · intro h
    exact (h.trans (List.suffix_cons '/' _)).trans (List.suffix_append _ _)

/-- Whether a page of a name that has no content type is in YAML, -/
def yamlPage (name : String) : Bool := yamlSuffixes.any (Text.endsWith · name)

/-- and whether a file of the name is. -/
def yamlFile (name : String) : Bool :=
  yamlSuffixes.contains (String.ofList (Text.lower (suffixText name).toList))

/-- A name by which the page is taken to be in another format than the file: nothing but a suffix of
    YAML files, or such a suffix with capital letters behind something. -/
def Misjudged (name : String) : Prop :=
  name ∈ yamlSuffixes ∨ suffixText name ∉ yamlSuffixes ∧ yamlFile name = true

instance (name : String) : Decidable (Misjudged name) := inferInstanceAs (Decidable (_ ∨ _))

theorem yamlPage_iff {name : String} :
    yamlPage name = true ↔ name ∈ yamlSuffixes ∨ suffixText name ∈ yamlSuffixes := by
  unfold yamlPage
  rw [List.any_eq_true]
  constructor
  · rintro ⟨word, hword, hends⟩
    rcases (endsWith_yamlSuffix_iff hword).mp hends with rfl | rfl
    · exact Or.inl hword
    · exact Or.inr hword
  · rintro (hname | hsuffix)
    · exact ⟨name, hname, (endsWith_yamlSuffix_iff hname).mpr (Or.inl rfl)⟩
    · exact ⟨_, hsuffix, (endsWith_yamlSuffix_iff hsuffix).mpr (Or.inr rfl)⟩

/-- **The formats of a page and a file of one name differ exactly if the name is misjudged.** -/
theorem yamlPage_eq_iff {name : String} : yamlPage name = yamlFile name ↔ ¬Misjudged name := by
  have hbare : ∀ word ∈ yamlSuffixes, yamlFile word = false := by decide
  have hlower : ∀ word ∈ yamlSuffixes,
      yamlSuffixes.contains (String.ofList (Text.lower word.toList)) = true := by decide
  unfold Misjudged
  by_cases hname : name ∈ yamlSuffixes
  · rw [yamlPage_iff.mpr (Or.inl hname), hbare name hname]
    exact iff_of_false Bool.false_ne_true.symm fun h => h (Or.inl hname)
  · by_cases hsuffix : suffixText name ∈ yamlSuffixes
    · have hfile : yamlFile name = true := by
        unfold yamlFile
        exact hlower (suffixText name) hsuffix
      rw [yamlPage_iff.mpr (Or.inr hsuffix), hfile]
      exact iff_of_true rfl fun h => h.elim hname fun h => h.1 hsuffix
    · have hpage : yamlPage name = false :=
        Bool.eq_false_iff.mpr fun h => (yamlPage_iff.mp h).elim hname hsuffix
      rw [hpage, or_iff_right hname, and_iff_right hsuffix, Bool.not_eq_true, eq_comm]

/-! ## 2. Faults of one kind -/

/-- The kinds of faults that a text has; a fault of another origin is a kind of its own. -/
inductive FaultKind where
  | refused
  | badValue
  | unknownWord
  | noPosition
  | noPart
  | tooGreat
  | endless
  | other (fault : Fault)
  deriving DecidableEq

/-- The kind of a fault of a YAML text. -/
def Yaml.Fault.kind : Yaml.Fault → FaultKind
  | .noTruth _ => .unknownWord
  | .noDigits => .noPosition
  | .noMoment => .noPart
  | .longSixties => .tooGreat
  | .endless => .endless
  | .noCharacter number => if greatestNumber < number then .tooGreat else .badValue
  | _ => .badValue

/-- The kind of a fault of a text. -/
def Fault.kind : Fault → FaultKind
  | .document .. => .refused
  | .longInteger _ => .badValue
  | .scalar fault => fault.kind
  | fault => .other fault

/-- The same document, or faults of one kind. -/
def LoadedAlike (x y : Except Fault Entries) : Prop := x.mapError Fault.kind = y.mapError Fault.kind

/-- The fault, told of another source. -/
def Fault.toldOf (source : String) : Fault → Fault
  | .document _ fault => .document source fault
  | fault => fault

theorem Fault.kind_toldOf (source : String) (fault : Fault) :
    (fault.toldOf source).kind = fault.kind := by
  cases fault <;> rfl

theorem loadedAlike_toldOf (source : String) (x : Except Fault Entries) :
    LoadedAlike (x.mapError (Fault.toldOf source)) x := by
  cases x with
  | ok entries => rfl
  | error fault => exact congrArg Except.error (fault.kind_toldOf source)

/-! ## 3. Documents of texts -/

/-- The entries of the mapping that the text of a source holds. -/
def documentOf (source : String) (s : SourceText) : Except Fault Entries := do
  match ← parseSource source s with
  | .mapping entries => return entries
  | _ => .error (.document source .notMapping)

theorem loadDocument_result (world : World) (source : String) :
    (loadDocument world source).result =
      (readSource world source).result >>= documentOf source := by
  unfold loadDocument
  rw [Outcome.result_bind]
  congr 1
  funext s
  rw [Outcome.result_bind, Outcome.result_ofExcept, documentOf]
  congr 1
  funext value
  cases value <;> rfl

theorem parseSource_toldOf (source other : String) (s : SourceText) :
    parseSource source s = (parseSource other s).mapError (Fault.toldOf source) := by
  unfold parseSource
  split
  · cases Value.ofYaml s.text with
    | ok value => rfl
    | error fault => cases fault <;> rfl
  · cases Value.ofJson s.text with
    | ok value => rfl
    | error fault => cases fault <;> rfl

/-- What a text holds does not hang on its source, which is named in faults alone. -/
theorem documentOf_toldOf (source other : String) (s : SourceText) :
    documentOf source s = (documentOf other s).mapError (Fault.toldOf source) := by
  unfold documentOf
  rw [parseSource_toldOf source other s]
  cases parseSource other s with
  | error fault => rfl
  | ok value => cases value <;> rfl

/-! ## 4. A page and a file -/

/-- A page and a file have one name and one text: the address ends with the name behind a slash and
    is answered with the text and no content type, and the file of the name holds it. -/
structure OneText (world : World) (url file name body : String) : Prop where
  address : isAddress url = true
  ending : ∃ front, url = front ++ "/" ++ name
  page : ∃ fetched, (Web.fetch world.web url).result = .ok fetched ∧
    fetched.response.status = 200 ∧ fetched.response.contentType = none ∧
    fetched.response.body = Text.Utf8.encode body
  taken : Text.Utf8.refusal? .lenient (File.Path.ofText file).text = none
  path : isAddress file = false
  whole : Char.ofNat 0 ∉ file.toList
  named : (File.Path.ofText file).name = name
  stored : world.tree.read (.ofText file) = .ok (Text.Utf8.encode body)
  plain : '\r' ∉ body.toList

variable {world : World} {url file name body : String}

/-- A body without a content type is read in the usual form. -/
theorem text_of_untyped {response : Web.Response} (htype : response.contentType = none)
    (hbody : response.body = Text.Utf8.encode body) :
    response.text = .ok (Text.receive body) := by
  have hset : Web.Response.charsetName? (("" : String).toList) = .ok none := by decide
  unfold Web.Response.text
  rw [htype, hbody, Option.getD_none, hset]
  split
  · rename_i hempty
    rw [← Text.Utf8.decodeLossy_encode body, List.isEmpty_iff.mp hempty]
    rfl
  · exact congrArg (Except.ok ∘ Text.receive) (Text.Utf8.decodeLossy_encode body)

/-- The page is read as the text, in the format that its name has for pages; -/
theorem OneText.readPage (h : OneText world url file name body) :
    (readPage world.web url).result = .ok ⟨Text.receive body, yamlPage name⟩ := by
  obtain ⟨fetched, hfetch, hstatus, htype, hbody⟩ := h.page
  obtain ⟨front, rfl⟩ := h.ending
  have hcomplaint : fetched.response.complaint? fetched.url = none := by
    rw [Web.Response.complaint?, hstatus]
    rfl
  have hslash : ∀ word ∈ yamlSuffixes, '/' ∉ word.toList := by decide
  have hformat : yamlSuffixes.any (Text.endsWith · (front ++ "/" ++ name)) = yamlPage name := by
    rw [yamlPage, Bool.eq_iff_iff, List.any_eq_true, List.any_eq_true]
    refine exists_congr fun word => and_congr_right fun hword => ?_
    rw [endsWith_behind (hslash word hword)]
  have hnamed : Text.mentions "yaml" (none.getD "") = false := rfl
  unfold SchemaRecords.readPage
  refine Outcome.result_bind_eq_ok.mpr
    ⟨fetched, Outcome.result_mapError_eq_ok.mpr hfetch, ?_⟩
  rw [hcomplaint]
  dsimp only
  rw [text_of_untyped htype hbody, htype, hformat, hnamed, Bool.false_or]
  rfl

/-- and the file as the same text, in the format that its name has for files. -/
theorem OneText.readFile (h : OneText world url file name body) :
    readFile world.tree file = .ok ⟨Text.receive body, yamlFile name⟩ := by
  have hformat : (File.Path.ofText file).hasSuffix yamlSuffixes = yamlFile name := by
    rw [File.Path.hasSuffix, File.Path.suffix, h.named]
    rfl
  have hnull : file.contains (Char.ofNat 0) = false := by
    rw [String.contains_char_eq]
    exact decide_eq_false h.whole
  have hplain : '\r' ∉ (Text.receive body).toList := fun hr =>
    h.plain (Text.mem_toList_receive (by decide) hr)
  have hoctets : readOctets world.tree file = .ok (Text.Utf8.encode body) :=
    (readOctets_eq h.taken hnull _).trans (mapError_eq_ok.mpr h.stored)
  unfold SchemaRecords.readFile
  refine bind_eq_ok.mpr ⟨_, hoctets, bind_eq_ok.mpr ⟨body, ?_, ?_⟩⟩
  · exact mapError_eq_ok.mpr (Text.Utf8.decode_eq_ok.mpr rfl)
  · rw [Text.unifyBreaks_of_not_mem hplain, String.ofList_toList, hformat]
    rfl

theorem OneText.loadPage (h : OneText world url file name body) :
    (loadDocument world url).result = documentOf url ⟨Text.receive body, yamlPage name⟩ := by
  rw [loadDocument_result, readSource, if_pos h.address, h.readPage]
  exact pure_bind _ (documentOf url)

theorem OneText.loadFile (h : OneText world url file name body) :
    (loadDocument world file).result = documentOf file ⟨Text.receive body, yamlFile name⟩ := by
  rw [loadDocument_result, readSource, h.path, if_neg Bool.false_ne_true,
    Outcome.result_ofExcept, h.readFile]
  exact pure_bind _ (documentOf file)

/-- **A page and a file of one name are read alike, but for some names.** Unless the name is nothing
    but a suffix of YAML files or has such a suffix with capital letters, both give one document or
    one fault, told of either source. By these names one of them is read as YAML and the other as
    JSON, so they are alike exactly if the text reads alike in both formats. -/
theorem page_file_alike (h : OneText world url file name body) :
    (¬Misjudged name →
        (loadDocument world url).result =
          (loadDocument world file).result.mapError (Fault.toldOf url)) ∧
      (LoadedAlike (loadDocument world url).result (loadDocument world file).result ↔
        ¬Misjudged name ∨
          LoadedAlike (documentOf name ⟨Text.receive body, true⟩)
            (documentOf name ⟨Text.receive body, false⟩)) := by
  rw [h.loadPage, h.loadFile]
  refine ⟨fun hname => ?_, ?_⟩
  · rw [yamlPage_eq_iff.mpr hname, documentOf_toldOf url file]
  · have hsource (source : String) (s : SourceText) :
        (documentOf source s).mapError Fault.kind = (documentOf name s).mapError Fault.kind := by
      rw [documentOf_toldOf source name]
      exact loadedAlike_toldOf source _
    unfold LoadedAlike
    rw [hsource url, hsource file, ← yamlPage_eq_iff]
    cases yamlPage name
    · cases yamlFile name
      · exact iff_of_true rfl (Or.inl rfl)
      · rw [or_iff_right Bool.false_ne_true, eq_comm]
    · cases yamlFile name
      · rw [or_iff_right Bool.false_ne_true.symm]
      · exact iff_of_true rfl (Or.inl rfl)

/-- A text in YAML that is none in JSON. -/
def objectText : String := "type: object\n"

/-- A folder with a file of this text, and a page with the text at an address of the same name. -/
def servedWorld (name : String) : World where
  tree := ⟨["work"], [(["work"], .folder), (["work", name], .file (Text.Utf8.encode objectText))]⟩
  web := ⟨[("http://h/" ++ name, .response ⟨200, none, none, Text.Utf8.encode objectText⟩)], true⟩

/-- A name in small letters, with two dots. -/
theorem page_file_alike_yml :
    OneText (servedWorld "s.v2.yml") "http://h/s.v2.yml" "./s.v2.yml" "s.v2.yml" objectText ∧
      ¬Misjudged "s.v2.yml" ∧
      (loadDocument (servedWorld "s.v2.yml") "http://h/s.v2.yml").result =
        .ok [(.text "type", .text "object")] := by
  have hboth : OneText (servedWorld "s.v2.yml") "http://h/s.v2.yml" "./s.v2.yml" "s.v2.yml"
      objectText := by
    refine ⟨?_, ⟨"http://h", ?_⟩, ⟨⟨"http://h/s.v2.yml", ⟨200, none, none, _⟩⟩, ?_, rfl, rfl, rfl⟩,
      ?_, ?_, ?_, ?_, ?_, ?_⟩ <;> decide +kernel
  have hname : ¬Misjudged "s.v2.yml" := by decide
  have hpage := (page_file_alike hboth).1 hname
  rw [hboth.loadFile] at hpage
  exact ⟨hboth, hname, hpage.trans (by decide +kernel)⟩

/-- **By a suffix in capital letters the page and the file are not alike**: the file is read as YAML
    and gives a document, and the page as JSON and gives none. -/
theorem capital_page_not_alike :
    OneText (servedWorld "s.YAML") "http://h/s.YAML" "s.YAML" "s.YAML" objectText ∧
      (loadDocument (servedWorld "s.YAML") "s.YAML").result =
        .ok [(.text "type", .text "object")] ∧
      ¬LoadedAlike (loadDocument (servedWorld "s.YAML") "http://h/s.YAML").result
        (loadDocument (servedWorld "s.YAML") "s.YAML").result := by
  have hboth : OneText (servedWorld "s.YAML") "http://h/s.YAML" "s.YAML" "s.YAML" objectText := by
    refine ⟨?_, ⟨"http://h", ?_⟩, ⟨⟨"http://h/s.YAML", ⟨200, none, none, _⟩⟩, ?_, rfl, rfl, rfl⟩,
      ?_, ?_, ?_, ?_, ?_, ?_⟩ <;> decide
  have hfile : (loadDocument (servedWorld "s.YAML") "s.YAML").result =
      .ok [(.text "type", .text "object")] := hboth.loadFile.trans (by decide +kernel)
  have hpage : (loadDocument (servedWorld "s.YAML") "http://h/s.YAML").result =
      .error (.document "http://h/s.YAML" (.malformedJson objectText .expectingValue 13)) :=
    hboth.loadPage.trans (by decide)
  refine ⟨hboth, hfile, ?_⟩
  rw [hpage, hfile]
  exact fun h => nomatch h

end SchemaRecords

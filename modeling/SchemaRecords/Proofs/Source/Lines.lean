import Mathlib
import SchemaRecords.Proofs.Source.Literal

/-!
# Lines of a source

What the lines of a source are made of, and how its text is cut into them again.

* `splitLines_no_break` -- no line that is cut from a text has a line break;
* `DocumentationChar` -- the characters that a documentation line can have: no line break, and none
  of the angle brackets that open and close markup;
* `documentationChar_of_mem` -- **all characters of documentation lines are of this kind**;
* `forall_mem_joined` -- lines that are joined with blanks have no other characters;
* `Avoids` -- a text without some characters; `avoids_of_mem_summary`, `avoids_of_mem_parameter` --
  no line of documentation has a line break inside;
* `isComment` -- the lines of documentation are comments;
* `splitOnP_unlines` -- **the text of lines is cut into what the lines are cut into**, wherever a
  line feed is cut at.
-/

namespace SchemaRecords.Text

/-! ## 1. Lines of a text -/

/-- No line that is cut from a text has a line break. -/
theorem splitLines_no_break {s line : List Char} (h : line ∈ splitLines s) :
    ∀ c ∈ line, isLineBreak c = false := by
  fun_induction splitLines s generalizing line with
  | case1 => cases h
  | case2 rest ih =>
    rcases List.mem_cons.mp h with rfl | h
    · exact fun c hc => nomatch hc
    · exact ih h
  | case3 c rest _ hc ih =>
    rcases List.mem_cons.mp h with rfl | h
    · exact fun d hd => nomatch hd
    · exact ih h
  | case4 c rest _ hc hrest =>
    obtain rfl := List.mem_singleton.mp h
    intro d hd
    rw [List.mem_singleton.mp hd]
    simpa using hc
  | case5 c rest _ hc first more hrest ih =>
    rw [hrest] at ih
    rcases List.mem_cons.mp h with rfl | h
    · intro d hd
      rcases List.mem_cons.mp hd with rfl | hd
      · simpa using hc
      · exact ih List.mem_cons_self d hd
    · exact ih (List.mem_cons_of_mem _ h)

theorem mem_of_mem_trimEnd {s : List Char} {c : Char} (h : c ∈ trimEnd s) : c ∈ s := by
  unfold trimEnd at h
  rw [List.mem_reverse] at h
  exact List.mem_reverse.mp ((List.dropWhile_sublist isBlank).subset h)

end SchemaRecords.Text

namespace SchemaRecords.Source

open Text

/-! ## 2. Characters of documentation lines -/

/-- The characters that a documentation line can have. -/
def DocumentationChar (c : Char) : Prop := isLineBreak c = false ∧ c ≠ '<' ∧ c ≠ '>'

instance (c : Char) : Decidable (DocumentationChar c) := inferInstanceAs (Decidable (_ ∧ _))

/-- A character as markup is made of such characters, unless it is a line break. -/
theorem documentationChar_of_mem_escapeMarkup {c d : Char} (hd : isLineBreak d = false)
    (h : c ∈ escapeMarkup d) : DocumentationChar c := by
  have hentities : ∀ s ∈ ["&amp;", "&lt;", "&gt;"], ∀ c ∈ s.toList, DocumentationChar c := by
    simp [DocumentationChar, isLineBreak]
  unfold escapeMarkup at h
  split at h
  · exact hentities _ (by simp) c h
  · exact hentities _ (by simp) c h
  · exact hentities _ (by simp) c h
  · rename_i hamp hlt hgt
    obtain rfl := List.mem_singleton.mp h
    exact ⟨hd, hlt, hgt⟩

/-- **All characters of documentation lines are of this kind.** -/
theorem documentationChar_of_mem {documentation : Option String} {line : String}
    (h : line ∈ documentationLines documentation) : ∀ c ∈ line.toList, DocumentationChar c := by
  unfold documentationLines at h
  split at h
  · cases h
  · obtain ⟨cut, hcut, rfl⟩ := List.mem_map.mp h
    intro c hc
    unfold documentationLine at hc
    rw [String.toList_ofList, List.mem_flatMap] at hc
    obtain ⟨d, hd, hc⟩ := hc
    have hbreak := splitLines_no_break hcut d (mem_of_mem_trimEnd hd)
    exact documentationChar_of_mem_escapeMarkup hbreak hc

/-- What holds of a blank and of all characters of some lines holds of those of the joined lines. -/
theorem forall_mem_joined {P : Char → Prop} (hblank : P ' ') {lines : List String}
    (h : ∀ line ∈ lines, ∀ c ∈ line.toList, P c) : ∀ c ∈ (" ".intercalate lines).toList, P c := by
  induction lines with
  | nil => simp
  | cons line rest ih =>
    obtain ⟨hline, hrest⟩ := List.forall_mem_cons.mp h
    cases rest with
    | nil => simpa using hline
    | cons second others =>
      have hothers := ih hrest
      intro c hc
      rw [String.intercalate_cons_cons, String.toList_append, String.toList_append,
        List.mem_append, List.mem_append] at hc
      rcases hc with (hc | hc) | hc
      · exact hline c hc
      · have hsame : c = ' ' := by simpa using hc
        exact hsame ▸ hblank
      · exact hothers c hc

/-! ## 3. Texts without some characters -/

/-- No character of the text is one of these. -/
def Avoids (banned : List Char) (text : String) : Prop := ∀ c ∈ text.toList, c ∉ banned

instance (banned : List Char) (text : String) : Decidable (Avoids banned text) :=
  decidable_of_iff ((text.toList.all fun c => !banned.contains c) = true) (by simp [Avoids])

theorem avoids_append {banned : List Char} {first rest : String} :
    Avoids banned (first ++ rest) ↔ Avoids banned first ∧ Avoids banned rest := by
  unfold Avoids
  rw [String.toList_append, List.forall_mem_append]

section

variable {banned : List Char} (hbanned : ∀ c ∈ banned, isLineBreak c = true)

include hbanned

/-- A text without line breaks has none of some line breaks. -/
theorem avoids_of_no_break {text : String} (h : ∀ c ∈ text.toList, isLineBreak c = false) :
    Avoids banned text := by
  intro c hc hmem
  have hbreak := hbanned c hmem
  rw [h c hc] at hbreak
  cases hbreak

theorem avoids_documentationLine {documentation : Option String} {line : String}
    (h : line ∈ documentationLines documentation) : Avoids banned line :=
  avoids_of_no_break hbanned fun c hc => (documentationChar_of_mem h c hc).1

theorem avoids_documentLine {line : String} (h : Avoids banned line) :
    Avoids banned (documentLine line) := by
  have hmark : Avoids banned "/// " := avoids_of_no_break hbanned (by simp [isLineBreak])
  exact avoids_append.mpr ⟨hmark, h⟩

/-- The documentation of a declaration has no line break inside a line. -/
theorem avoids_of_mem_summary {documentation : Option String} {line : String}
    (h : line ∈ summary (documentationLines documentation)) : Avoids banned line := by
  have hopen : Avoids banned "<summary>" := avoids_of_no_break hbanned (by simp [isLineBreak])
  have hclose : Avoids banned "</summary>" := avoids_of_no_break hbanned (by simp [isLineBreak])
  unfold summary at h
  split at h
  · cases h
  · rcases List.mem_append.mp h with h | h
    · rcases List.mem_cons.mp h with rfl | h
      · exact avoids_documentLine hbanned hopen
      · obtain ⟨cut, hcut, rfl⟩ := List.mem_map.mp h
        exact avoids_documentLine hbanned (avoids_documentationLine hbanned hcut)
    · rw [List.mem_singleton.mp h]
      exact avoids_documentLine hbanned hclose

/-- Nor has that of a field, if its name has none. -/
theorem avoids_of_mem_parameter {f : Record.Field} (hname : Avoids banned f.name) {line : String}
    (h : line ∈ (FieldView.of f).parameter) : Avoids banned line := by
  have hopen : Avoids banned "<param name=" := avoids_of_no_break hbanned (by simp [isLineBreak])
  have hquote : Avoids banned "\"" := avoids_of_no_break hbanned (by simp [isLineBreak])
  have hend : Avoids banned ">" := avoids_of_no_break hbanned (by simp [isLineBreak])
  have hclose : Avoids banned "</param>" := avoids_of_no_break hbanned (by simp [isLineBreak])
  have hjoined : Avoids banned (" ".intercalate (documentationLines f.documentation)) := by
    refine avoids_of_no_break hbanned (forall_mem_joined (by decide) fun line hline c hc => ?_)
    exact (documentationChar_of_mem hline c hc).1
  unfold FieldView.parameter at h
  split at h
  · cases h
  · rw [List.mem_singleton.mp h]
    refine avoids_documentLine hbanned ?_
    simp only [inQuotes, avoids_append]
    exact ⟨⟨⟨⟨hopen, ⟨hquote, hname⟩, hquote⟩, hend⟩, hjoined⟩, hclose⟩

end

/-! ## 4. Comment lines -/

/-- Whether a line is a documentation comment. -/
def isComment : List Char → Bool
  | '/' :: '/' :: '/' :: _ => true
  | _ => false

theorem toList_documentLine (line : String) :
    (documentLine line).toList = '/' :: '/' :: '/' :: ' ' :: line.toList := by
  rw [documentLine, String.toList_append]
  rfl

theorem isComment_documentLine (line : String) :
    isComment (documentLine line).toList = true := by
  rw [toList_documentLine]
  rfl

/-- The documentation of a declaration is made of comments. -/
theorem isComment_of_mem_summary {lines : List String} {line : String} (h : line ∈ summary lines) :
    isComment line.toList = true := by
  unfold summary at h
  split at h
  · cases h
  · rcases List.mem_append.mp h with h | h
    · rcases List.mem_cons.mp h with rfl | h
      · exact isComment_documentLine _
      · obtain ⟨cut, _, rfl⟩ := List.mem_map.mp h
        exact isComment_documentLine cut
    · rw [List.mem_singleton.mp h]
      exact isComment_documentLine _

/-- And so is that of a field. -/
theorem isComment_of_mem_parameter {f : FieldView} {line : String} (h : line ∈ f.parameter) :
    isComment line.toList = true := by
  unfold FieldView.parameter at h
  split at h
  · cases h
  · rw [List.mem_singleton.mp h]
    exact isComment_documentLine _

/-! ## 5. Lines as a text -/

/-- A field before another one has a comma. -/
theorem fieldLists_cons (f g : FieldView) (rest : List FieldView) :
    fieldLists (f :: g :: rest) = (f.render ++ ",") :: fieldLists (g :: rest) := rfl

/-- **The text of lines is cut into what the lines are cut into**, and an empty rest. -/
theorem splitOnP_unlines {p : Char → Bool} (hp : p '\n' = true) (lines : List String) :
    (unlines lines).toList.splitOnP p =
      lines.flatMap (fun line => line.toList.splitOnP p) ++ [[]] := by
  induction lines with
  | nil => exact List.splitOnP_nil
  | cons line rest ih =>
    have htext :
        (unlines (line :: rest)).toList = line.toList ++ '\n' :: (unlines rest).toList := by
      rw [unlines_cons, String.toList_append, String.toList_append]
      rfl
    rw [htext, List.splitOnP_append_cons _ _ hp, ih, List.flatMap_cons, List.append_assoc]

end SchemaRecords.Source

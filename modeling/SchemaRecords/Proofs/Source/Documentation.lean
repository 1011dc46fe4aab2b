import Mathlib
import SchemaRecords.Proofs.Text.Lines

/-!
# Documentation lines and the text they stand for

* `unescapeMarkup` -- markup as the characters that it stands for; `unescapeMarkup_flatMap` -- the
  markup of a text stands for the text, whatever entities there are in it;
* `OpensEntities` -- an ampersand of the markup of a text opens an entity, wherever it stands;
* `markup` -- a line as markup; `documentationLines_some` -- documentation lines are the lines of
  their text (`textLines`) as markup;
* `MarkupLine` -- what each of them is made of; `markupLine_of_mem`;
* `plainText`, `documentation_faithful` -- **documentation lines stand for the lines of their
  text, and the text that they stand for has them for its documentation lines**.
-/

namespace SchemaRecords.Source

open Text

/-! ## 1. Markup and what it stands for -/

/-- Markup as the characters that it stands for. -/
def unescapeMarkup : List Char → List Char
  | '&' :: 'a' :: 'm' :: 'p' :: ';' :: rest => '&' :: unescapeMarkup rest
  | '&' :: 'l' :: 't' :: ';' :: rest => '<' :: unescapeMarkup rest
  | '&' :: 'g' :: 't' :: ';' :: rest => '>' :: unescapeMarkup rest
  | '&' :: 'q' :: 'u' :: 'o' :: 't' :: ';' :: rest => '"' :: unescapeMarkup rest
  | '&' :: 'a' :: 'p' :: 'o' :: 's' :: ';' :: rest => Char.ofNat 0x27 :: unescapeMarkup rest
  | c :: rest => c :: unescapeMarkup rest
  | [] => []

/-- A character that opens no entity stands for itself. -/
theorem unescapeMarkup_cons {c : Char} (h : c ≠ '&') (rest : List Char) :
    unescapeMarkup (c :: rest) = c :: unescapeMarkup rest := by
  rw [unescapeMarkup] <;> exact fun _ e => absurd e h

/-- A character as markup stands for the character. -/
theorem unescapeMarkup_escapeMarkup (c : Char) (rest : List Char) :
    unescapeMarkup (escapeMarkup c ++ rest) = c :: unescapeMarkup rest := by
  unfold escapeMarkup
  split
  · exact unescapeMarkup.eq_1 rest
  · exact unescapeMarkup.eq_2 rest
  · exact unescapeMarkup.eq_3 rest
  · rename_i hamp _ _
    exact unescapeMarkup_cons hamp rest

/-- **The markup of a text stands for the text**, whatever entities there are in it. -/
theorem unescapeMarkup_flatMap (s rest : List Char) :
    unescapeMarkup (s.flatMap escapeMarkup ++ rest) = s ++ unescapeMarkup rest := by
  induction s with
  | nil => rfl
  | cons c s ih =>
    rw [List.flatMap_cons, List.append_assoc, unescapeMarkup_escapeMarkup, ih, List.cons_append]

/-! ## 2. Ampersands of markup -/

/-- The entities that stand for the reserved characters, behind their ampersands. -/
def entityRests : List (List Char) := [['a', 'm', 'p', ';'], ['l', 't', ';'], ['g', 't', ';']]

/-- An ampersand opens an entity, wherever it stands. -/
def OpensEntities (line : List Char) : Prop :=
  ∀ front rest, line = front ++ '&' :: rest → ∃ entity ∈ entityRests, entity <+: rest

/-- A character as markup is an entity, or a character by itself that opens none. -/
theorem escapeMarkup_cases (c : Char) :
    (∃ entity ∈ entityRests, escapeMarkup c = '&' :: entity) ∨
      escapeMarkup c = [c] ∧ c ≠ '&' := by
  unfold escapeMarkup
  split
  · exact Or.inl ⟨['a', 'm', 'p', ';'], by decide, rfl⟩
  · exact Or.inl ⟨['l', 't', ';'], by decide, rfl⟩
  · exact Or.inl ⟨['g', 't', ';'], by decide, rfl⟩
  · rename_i hamp _ _
    exact Or.inr ⟨rfl, hamp⟩

/-- An ampersand behind the first character of a character as markup there is not. -/
theorem ampersand_first {c : Char} {front rest : List Char}
    (h : escapeMarkup c = front ++ '&' :: rest) : front = [] ∧ rest ∈ entityRests := by
  have hrests : ∀ entity ∈ entityRests, '&' ∉ entity := by decide
  rcases escapeMarkup_cases c with ⟨entity, hentity, hmarkup⟩ | ⟨hmarkup, hc⟩
  · rw [hmarkup] at h
    cases front with
    | nil =>
      obtain ⟨_, rfl⟩ := List.cons.inj h
      exact ⟨rfl, hentity⟩
    | cons d front =>
      have hmem : '&' ∈ entity := by
        rw [(List.cons.inj h).2]
        simp
      exact absurd hmem (hrests entity hentity)
  · rw [hmarkup] at h
    cases front with
    | nil => exact absurd (List.cons.inj h).1 hc
    | cons d front => simp at h

/-- **An ampersand of the markup of a text opens an entity.** -/
theorem opensEntities_flatMap (s : List Char) : OpensEntities (s.flatMap escapeMarkup) := by
  induction s with
  | nil =>
    intro front rest h
    simp at h
  | cons c s ih =>
    intro front rest h
    rw [List.flatMap_cons] at h
    -- The ampersand stands behind the first character's markup, or within it.
    rcases List.append_eq_append_iff.mp h with ⟨behind, _, hrest⟩ | ⟨inside, hmarkup, hrest⟩
    · exact ih behind rest hrest
    · cases inside with
      | nil => exact ih [] rest hrest.symm
      | cons d entity =>
        obtain ⟨rfl, rfl⟩ := List.cons.inj hrest
        exact ⟨entity, (ampersand_first hmarkup).2, List.prefix_append entity _⟩

/-! ## 3. Lines as markup -/

/-- A line as markup. -/
def markup (line : List Char) : String := String.ofList (line.flatMap escapeMarkup)

theorem toList_markup (line : List Char) : (markup line).toList = line.flatMap escapeMarkup :=
  String.toList_ofList

theorem unescapeMarkup_markup (line : List Char) : unescapeMarkup (markup line).toList = line := by
  have h := unescapeMarkup_flatMap line []
  rw [List.append_nil] at h
  rw [toList_markup, h]
  exact List.append_nil line

/-- Documentation lines are the lines of their text as markup. -/
theorem documentationLines_some (text : String) :
    documentationLines (some text) = (textLines text.toList).map markup := by
  rw [textLines, List.map_map]
  rfl

/-- What a documentation line is made of: no line break, no angle bracket, no blanks at its end, and
    no ampersand but those that open the entities of the reserved characters. -/
structure MarkupLine (line : String) : Prop where
  chars : ∀ c ∈ line.toList, DocumentationChar c
  trimmed : trimEnd line.toList = line.toList
  entities : OpensEntities line.toList

/-- A character as markup ends with a blank only if it is one. -/
theorem exists_escapeMarkup_concat {c : Char} (hc : isBlank c = false) :
    ∃ front d, escapeMarkup c = front ++ [d] ∧ isBlank d = false := by
  have hrests : ∀ entity ∈ entityRests, entity.getLast? = some ';' := by decide
  rcases escapeMarkup_cases c with ⟨entity, hentity, hmarkup⟩ | ⟨hmarkup, _⟩
  · obtain ⟨front, hfront⟩ := List.getLast?_eq_some_iff.mp (hrests entity hentity)
    exact ⟨'&' :: front, ';', by rw [hmarkup, hfront, List.cons_append], by decide⟩
  · exact ⟨[], c, hmarkup, hc⟩

theorem trimEnd_markup {line : List Char} (h : trimEnd line = line) :
    trimEnd (markup line).toList = (markup line).toList := by
  rw [toList_markup]
  rcases trimEnd_cases line with ⟨hnil, _⟩ | ⟨front, c, hconcat, hc⟩
  · rw [h] at hnil
    rw [hnil]
    rfl
  · rw [h] at hconcat
    obtain ⟨before, d, hd, hblank⟩ := exists_escapeMarkup_concat hc
    rw [hconcat, List.flatMap_append, List.flatMap_singleton, hd, ← List.append_assoc]
    exact trimEnd_concat _ hblank

/-- A documentation line is the markup of a line without blanks at its end. -/
theorem exists_eq_markup {documentation : Option String} {line : String}
    (h : line ∈ documentationLines documentation) :
    ∃ trimmed, trimEnd trimmed = trimmed ∧ line = markup trimmed := by
  cases documentation with
  | none => cases h
  | some text =>
    obtain ⟨cut, _, hcut⟩ := List.mem_map.mp h
    exact ⟨trimEnd cut, trimEnd_trimEnd cut, hcut.symm⟩

/-- **Documentation lines are made of this.** -/
theorem markupLine_of_mem {documentation : Option String} {line : String}
    (h : line ∈ documentationLines documentation) : MarkupLine line := by
  have hchars := documentationChar_of_mem h
  obtain ⟨trimmed, htrim, rfl⟩ := exists_eq_markup h
  have hentities := opensEntities_flatMap trimmed
  rw [← toList_markup] at hentities
  exact ⟨hchars, trimEnd_markup htrim, hentities⟩

/-! ## 4. The text of documentation lines -/

/-- The text that lines of markup stand for. -/
def plainText (lines : List String) : String :=
  String.ofList (unescapeMarkup ("\n".intercalate lines).toList)

/-- The text of lines as markup is the text of the lines. -/
theorem plainText_map_markup (lines : List (List Char)) :
    plainText (lines.map markup) = String.ofList (joinLines lines) := by
  unfold plainText
  congr 1
  induction lines with
  | nil => rfl
  | cons line rest ih =>
    cases rest with
    | nil => simpa [joinLines_singleton] using unescapeMarkup_markup line
    | cons second others =>
      rw [List.map_cons, List.map_cons, String.intercalate_cons_cons, String.toList_append,
        String.toList_append, toList_markup, List.append_assoc, unescapeMarkup_flatMap,
        joinLines_cons line (List.cons_ne_nil second others), ← ih]
      exact congrArg (line ++ ·) (unescapeMarkup_cons (by decide) _)

/-- **Documentation lines are a faithful form of their text.** Each is made of markup that a comment
    line can hold; they stand for the lines of the text without the blanks around them; there are
    none exactly if there is no text but for blanks, and otherwise the first one begins and the
    last one ends with a character that is no blank; and the text that they stand for has the same
    documentation lines. -/
theorem documentation_faithful (documentation : Option String) :
    (∀ line ∈ documentationLines documentation, MarkupLine line) ∧
      (documentationLines documentation).map (fun line => unescapeMarkup line.toList) =
        textLines (documentation.getD "").toList ∧
      (documentationLines documentation = [] ↔
        ∀ text, documentation = some text → ∀ c ∈ text.toList, isBlank c = true) ∧
      (documentationLines documentation = [] ∨
        (∃ c line rest, isBlank c = false ∧
          documentationLines documentation = String.ofList (escapeMarkup c ++ line) :: rest) ∧
        ∃ front line c, isBlank c = false ∧
          documentationLines documentation =
            front ++ [String.ofList (line ++ escapeMarkup c)]) ∧
      documentationLines (some (plainText (documentationLines documentation))) =
        documentationLines documentation := by
  refine ⟨fun line hline => markupLine_of_mem hline, ?_⟩
  cases documentation with
  | none =>
    refine ⟨rfl, ⟨fun _ text h => ?_, fun _ => rfl⟩, Or.inl rfl, rfl⟩
    cases h
  | some text =>
    rw [documentationLines_some, plainText_map_markup, documentationLines_some,
      String.toList_ofList]
    have hplain : ((textLines text.toList).map markup).map
        (fun line => unescapeMarkup line.toList) = textLines text.toList := by
      rw [List.map_map]
      exact (List.map_congr_left fun line _ => unescapeMarkup_markup line).trans
        (List.map_id (textLines text.toList))
    refine ⟨hplain, ?_⟩
    rcases trim_cases text.toList with ⟨_, hblank⟩ | hbare
    · rw [textLines_of_blank hblank]
      refine ⟨⟨fun _ other h => ?_, fun _ => rfl⟩, Or.inl rfl, rfl⟩
      cases h
      exact hblank
    · have hlines := bareLines_textLines hbare
      obtain ⟨c, line, rest, hfirst, hc⟩ := hlines.first
      obtain ⟨front, before, d, hlast, hd⟩ := hlines.last
      refine ⟨⟨fun h => ?_, fun h => ?_⟩, Or.inr ⟨?_, ?_⟩, ?_⟩
      · rw [hfirst] at h
        cases h
      · rw [textLines_of_blank (h text rfl)] at hfirst
        cases hfirst
      · exact ⟨c, line.flatMap escapeMarkup, rest.map markup, hc, by rw [hfirst]; rfl⟩
      · refine ⟨front.map markup, before.flatMap escapeMarkup, d, hd, ?_⟩
        rw [hlast, List.map_append, List.map_singleton, markup, List.flatMap_append,
          List.flatMap_singleton]
      · rw [hlines.textLines]

/-- Entities, a carriage return before a line feed, and other breaks of lines. -/
theorem documentation_faithful_entities :
    documentationLines (some "\t A &amp; <b> \r\n\x0b  c > d\u2028&lt;\u0085 ") =
        ["A &amp;amp; &lt;b&gt;", "", "  c &gt; d", "&amp;lt;"] ∧
      documentationLines
          (some (plainText ["A &amp;amp; &lt;b&gt;", "", "  c &gt; d", "&amp;lt;"])) =
        ["A &amp;amp; &lt;b&gt;", "", "  c &gt; d", "&amp;lt;"] := by
  have hlines : documentationLines (some "\t A &amp; <b> \r\n\x0b  c > d\u2028&lt;\u0085 ") =
      ["A &amp;amp; &lt;b&gt;", "", "  c &gt; d", "&amp;lt;"] := by decide +kernel
  have h := documentation_faithful (some "\t A &amp; <b> \r\n\x0b  c > d\u2028&lt;\u0085 ")
  rw [hlines] at h
  exact ⟨hlines, h.2.2.2.2⟩

end SchemaRecords.Source

import Mathlib
import SchemaRecords.Proofs.Source.Lines

/-!
# Trimmed texts and their lines

What is left of a text, and of each of its lines, without the blanks around it.

* `trimEnd_concat`, `exists_trimEnd_cons` -- a character that is no blank stays at the end, and at
  the front;
* `trim_cases` -- a text of blanks alone is trimmed to nothing, and any other to one that neither
  begins nor ends with a blank (`Bare`), which trimming leaves as it is (`Bare.trim_eq`);
* `splitLines_append_feed`, `splitLines_joinLines` -- lines with line feeds between them are cut
  into these lines again;
* `exists_first_splitLines`, `exists_last_splitLines` -- the first line begins as the text does, and
  the last one ends as it does;
* `textLines` -- the lines of a text without the blanks around it and at their ends;
  `bareLines_textLines`, `BareLines.textLines` -- **joined with line feeds, they are the lines of
  their text again**.
-/

namespace SchemaRecords.Text

variable {c : Char} {s : List Char}

/-! ## 1. Trimming -/

theorem trimEnd_eq_rdropWhile (s : List Char) : trimEnd s = s.rdropWhile isBlank := rfl

/-- A character that is no blank stays at the end. -/
theorem trimEnd_concat (s : List Char) (hc : isBlank c = false) : trimEnd (s ++ [c]) = s ++ [c] :=
  List.rdropWhile_concat_neg isBlank s c (by rw [hc]; exact Bool.false_ne_true)

/-- Nothing is left of a text exactly if it has blanks alone; else what is left ends in no blank. -/
theorem trimEnd_cases (s : List Char) :
    (trimEnd s = [] ∧ ∀ c ∈ s, isBlank c = true) ∨
      ∃ front c, trimEnd s = front ++ [c] ∧ isBlank c = false := by
  rcases List.eq_nil_or_concat' (trimEnd s) with hnil | ⟨front, c, hconcat⟩
  · exact Or.inl ⟨hnil, List.rdropWhile_eq_nil_iff.mp hnil⟩
  · refine Or.inr ⟨front, c, hconcat, ?_⟩
    have hne : s.rdropWhile isBlank ≠ [] := by
      rw [← trimEnd_eq_rdropWhile, hconcat]
      simp
    have hlast := List.rdropWhile_last_not isBlank s hne
    simp only [← trimEnd_eq_rdropWhile, hconcat, List.getLast_concat] at hlast
    exact Bool.eq_false_iff.mpr hlast

theorem trimEnd_trimEnd (s : List Char) : trimEnd (trimEnd s) = trimEnd s :=
  List.rdropWhile_idempotent isBlank s

/-- A character that is no blank stays at the front. -/
theorem exists_trimEnd_cons (s : List Char) (hc : isBlank c = false) :
    ∃ rest, trimEnd (c :: s) = c :: rest := by
  obtain ⟨cut, hcut⟩ := List.rdropWhile_prefix isBlank (l := c :: s)
  rw [← trimEnd_eq_rdropWhile] at hcut
  cases htrim : trimEnd (c :: s) with
  | nil =>
    have hall := List.rdropWhile_eq_nil_iff.mp htrim c List.mem_cons_self
    rw [hc] at hall
    cases hall
  | cons d rest =>
    rw [htrim, List.cons_append] at hcut
    exact ⟨rest, by rw [(List.cons.inj hcut).1]⟩

/-- A text that neither begins nor ends with a blank. -/
structure Bare (s : List Char) : Prop where
  first : ∃ c rest, s = c :: rest ∧ isBlank c = false
  last : ∃ front c, s = front ++ [c] ∧ isBlank c = false

/-- Nothing is left of a text but for its blanks exactly if it has no others; else what is left
    neither begins nor ends with one. -/
theorem trim_cases (s : List Char) :
    (trim s = [] ∧ ∀ c ∈ s, isBlank c = true) ∨ Bare (trim s) := by
  unfold trim
  cases hfront : s.dropWhile isBlank with
  | nil => exact Or.inl ⟨rfl, List.dropWhile_eq_nil_iff.mp hfront⟩
  | cons c rest =>
    have hc : isBlank c = false := by
      have hhead := List.head?_dropWhile_not isBlank s
      rw [hfront] at hhead
      simpa using hhead
    obtain ⟨others, hothers⟩ := exists_trimEnd_cons rest hc
    rcases trimEnd_cases (c :: rest) with ⟨hnil, _⟩ | hlast
    · rw [hothers] at hnil
      cases hnil
    · exact Or.inr ⟨⟨c, others, hothers, hc⟩, hlast⟩

theorem Bare.trim_eq (h : Bare s) : trim s = s := by
  obtain ⟨c, rest, hfirst, hc⟩ := h.first
  obtain ⟨front, d, hlast, hd⟩ := h.last
  have hdrop : s.dropWhile isBlank = s := by
    rw [hfirst, List.dropWhile_cons_of_neg (by rw [hc]; exact Bool.false_ne_true)]
  rw [trim, hdrop, hlast, trimEnd_concat front hd]

/-! ## 2. Lines -/

/-- No character of the line ends a line. -/
def Unbroken (line : List Char) : Prop := ∀ c ∈ line, isLineBreak c = false

theorem isLineBreak_of_not_isBlank (h : isBlank c = false) : isLineBreak c = false := by
  cases hbreak : isLineBreak c with
  | false => rfl
  | true =>
    rw [isBlank_of_isLineBreak hbreak] at h
    cases h

/-- A character that ends no line goes to the first line of what is behind it. -/
theorem splitLines_cons (h : isLineBreak c = false) (s : List Char) :
    splitLines (c :: s) = (c :: (splitLines s).headD []) :: (splitLines s).tail := by
  rw [splitLines, if_neg (Bool.eq_false_iff.mp h)]
  · cases splitLines s <;> rfl
  · rintro rest rfl _
    revert h
    decide

/-- A line before a line feed is cut off. -/
theorem splitLines_append_feed {line : List Char} (h : Unbroken line) (rest : List Char) :
    splitLines (line ++ '\n' :: rest) = line :: splitLines rest := by
  induction line with
  | nil =>
    rw [List.nil_append, splitLines, if_pos (by decide)]
    rintro _ h _
    cases h
  | cons c line ih =>
    obtain ⟨hc, hline⟩ := List.forall_mem_cons.mp h
    rw [List.cons_append, splitLines_cons hc, ih hline]
    rfl

/-- A line by itself is the only one, unless it is empty. -/
theorem splitLines_unbroken {line : List Char} (h : Unbroken line) (hne : line ≠ []) :
    splitLines line = [line] := by
  induction line with
  | nil => exact absurd rfl hne
  | cons c line ih =>
    obtain ⟨hc, hline⟩ := List.forall_mem_cons.mp h
    rw [splitLines_cons hc]
    by_cases hrest : line = []
    · rw [hrest]
      rfl
    · rw [ih hline hrest]
      rfl

/-- The text of lines, with line feeds between them. -/
def joinLines (lines : List (List Char)) : List Char := ['\n'].intercalate lines

theorem joinLines_singleton (line : List Char) : joinLines [line] = line := by
  simp [joinLines, List.intercalate]

theorem joinLines_cons (line : List Char) {rest : List (List Char)} (h : rest ≠ []) :
    joinLines (line :: rest) = line ++ '\n' :: joinLines rest := by
  rw [joinLines, joinLines, List.intercalate_cons_of_ne_nil h, List.append_assoc]
  rfl

/-- The text of lines ends with the last of them. -/
theorem exists_joinLines_concat (front : List (List Char)) (last : List Char) :
    ∃ before, joinLines (front ++ [last]) = before ++ last := by
  induction front with
  | nil => exact ⟨[], joinLines_singleton last⟩
  | cons line front ih =>
    obtain ⟨before, hbefore⟩ := ih
    refine ⟨line ++ '\n' :: before, ?_⟩
    rw [List.cons_append, joinLines_cons line (by simp), hbefore, List.append_assoc,
      List.cons_append]

/-- **Lines with line feeds between them are cut into these lines again**, if the last one is not
    empty. -/
theorem splitLines_joinLines {front : List (List Char)} {last : List Char}
    (h : ∀ line ∈ front ++ [last], Unbroken line) (hlast : last ≠ []) :
    splitLines (joinLines (front ++ [last])) = front ++ [last] := by
  induction front with
  | nil =>
    rw [List.nil_append, joinLines_singleton]
    exact splitLines_unbroken (h last List.mem_cons_self) hlast
  | cons line front ih =>
    obtain ⟨hline, hrest⟩ := List.forall_mem_cons.mp h
    rw [List.cons_append, joinLines_cons line (by simp), splitLines_append_feed hline, ih hrest]

/-- The first line of a text begins as the text does, -/
theorem exists_first_splitLines (hc : isLineBreak c = false) (s : List Char) :
    ∃ line rest, splitLines (c :: s) = (c :: line) :: rest :=
  ⟨_, _, splitLines_cons hc s⟩

/-- and the last one ends as it does. -/
theorem exists_last_splitLines (hc : isLineBreak c = false) (s : List Char) :
    ∃ front line, splitLines (s ++ [c]) = front ++ [line ++ [c]] := by
  have hunbroken {d : Char} {rest : List Char} (hd : isLineBreak d = false)
      (ih : ∃ front line, splitLines (rest ++ [c]) = front ++ [line ++ [c]]) :
      ∃ front line, splitLines (d :: rest ++ [c]) = front ++ [line ++ [c]] := by
    obtain ⟨front, line, hlines⟩ := ih
    rw [List.cons_append, splitLines_cons hd, hlines]
    cases front with
    | nil => exact ⟨[], d :: line, rfl⟩
    | cons first front => exact ⟨(d :: first) :: front, line, rfl⟩
  induction s using splitLines.induct with
  | case1 => exact ⟨[], [], splitLines_unbroken (by simpa [Unbroken] using hc) (by simp)⟩
  | case2 rest ih =>
    obtain ⟨front, line, hlines⟩ := ih
    refine ⟨[] :: front, line, ?_⟩
    rw [List.cons_append, List.cons_append, splitLines, hlines]
    rfl
  | case3 d rest hno hd ih =>
    obtain ⟨front, line, hlines⟩ := ih
    refine ⟨[] :: front, line, ?_⟩
    rw [List.cons_append, splitLines, if_pos hd, hlines]
    · rfl
    · -- no feed comes to stand behind a return: `c` is none, and one in `rest` was there before
      rintro others rfl hfeed
      cases rest with
      | nil =>
        obtain rfl := (List.cons.inj hfeed).1
        cases hc
      | cons e rest =>
        obtain rfl := (List.cons.inj hfeed).1
        exact hno rest rfl rfl
  | case4 d rest hno hd hrest ih => exact hunbroken (Bool.eq_false_iff.mpr hd) ih
  | case5 d rest hno hd first more hrest ih => exact hunbroken (Bool.eq_false_iff.mpr hd) ih

/-- A text without carriage returns keeps its line breaks. -/
theorem unifyBreaks_of_not_mem {s : List Char} (h : '\r' ∉ s) : unifyBreaks s = s := by
  induction s with
  | nil => rfl
  | cons c rest ih =>
    obtain ⟨hc, hrest⟩ := not_or.mp (mt List.mem_cons.mpr h)
    rw [unifyBreaks, ih hrest]
    · rintro _ rfl _
      exact hc rfl
    · rintro rfl
      exact hc rfl

/-! ## 3. Lines without blanks around them -/

/-- The lines of a text without the blanks at its two ends and at the end of each. -/
def textLines (s : List Char) : List (List Char) := (splitLines (trim s)).map trimEnd

theorem textLines_of_blank (h : ∀ c ∈ s, isBlank c = true) : textLines s = [] := by
  rw [textLines, trim, List.dropWhile_eq_nil_iff.mpr h]
  rfl

/-- Lines of a text with the first of them beginning, and the last ending, with no blank. -/
structure BareLines (lines : List (List Char)) : Prop where
  unbroken : ∀ line ∈ lines, Unbroken line
  trimmed : ∀ line ∈ lines, trimEnd line = line
  first : ∃ c line rest, lines = (c :: line) :: rest ∧ isBlank c = false
  last : ∃ front line c, lines = front ++ [line ++ [c]] ∧ isBlank c = false

theorem unbroken_trimEnd {line : List Char} (h : Unbroken line) : Unbroken (trimEnd line) :=
  fun c hc => h c (mem_of_mem_trimEnd hc)

/-- **A text has such lines**, unless it is blank. -/
theorem bareLines_textLines (h : Bare (trim s)) : BareLines (textLines s) := by
  have hmem {line : List Char} (hline : line ∈ textLines s) :
      ∃ cut ∈ splitLines (trim s), trimEnd cut = line := List.mem_map.mp hline
  obtain ⟨c, rest, hfirst, hc⟩ := h.first
  obtain ⟨front, d, hlast, hd⟩ := h.last
  refine ⟨fun line hline => ?_, fun line hline => ?_, ?_, ?_⟩
  · obtain ⟨cut, hcut, rfl⟩ := hmem hline
    exact unbroken_trimEnd (splitLines_no_break hcut)
  · obtain ⟨cut, _, rfl⟩ := hmem hline
    exact trimEnd_trimEnd cut
  · have hbreak := isLineBreak_of_not_isBlank hc
    obtain ⟨line, others, hlines⟩ := exists_first_splitLines hbreak rest
    obtain ⟨cut, hcut⟩ := exists_trimEnd_cons line hc
    rw [textLines, hfirst, hlines, List.map_cons, hcut]
    exact ⟨c, cut, _, rfl, hc⟩
  · have hbreak := isLineBreak_of_not_isBlank hd
    obtain ⟨others, line, hlines⟩ := exists_last_splitLines hbreak front
    rw [textLines, hlast, hlines, List.map_append, List.map_singleton, trimEnd_concat line hd]
    exact ⟨_, line, d, rfl, hd⟩

/-- Such lines, joined, begin and end with no blank. -/
theorem BareLines.bare {lines : List (List Char)} (h : BareLines lines) :
    Bare (joinLines lines) := by
  constructor
  · obtain ⟨c, line, rest, rfl, hc⟩ := h.first
    by_cases hrest : rest = []
    · exact ⟨c, line, by rw [hrest, joinLines_singleton], hc⟩
    · exact ⟨c, _, joinLines_cons (c :: line) hrest, hc⟩
  · obtain ⟨front, line, c, rfl, hc⟩ := h.last
    obtain ⟨before, hbefore⟩ := exists_joinLines_concat front (line ++ [c])
    exact ⟨before ++ line, c, by rw [hbefore, List.append_assoc], hc⟩

/-- **Joined again, they are the lines of their text.** -/
theorem BareLines.textLines {lines : List (List Char)} (h : BareLines lines) :
    textLines (joinLines lines) = lines := by
  obtain ⟨front, line, c, hlast, hc⟩ := h.last
  have hlines : splitLines (joinLines lines) = lines := by
    have hunbroken := h.unbroken
    rw [hlast] at hunbroken ⊢
    exact splitLines_joinLines hunbroken (by simp)
  rw [Text.textLines, h.bare.trim_eq, hlines]
  exact (List.map_congr_left h.trimmed).trans (List.map_id lines)

end SchemaRecords.Text

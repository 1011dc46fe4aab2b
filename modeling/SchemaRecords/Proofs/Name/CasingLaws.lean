import SchemaRecords.Proofs.Name.Cased
import SchemaRecords.Proofs.Name.LowerCase
import SchemaRecords.Text.DecimalDigit

/-!
# Laws of casing

What becomes of names that are cased again, and of texts that are cased part by part.

* `pascal_eq_iff` -- the texts that casing leaves as they are;
* `pascal_words` -- **the words of a text are cased one by one, and once for all**; names made from
  such names are cased too;
* `camel_camel_iff` -- **a name with a small first letter is cased once for all** unless its words
  start with a capital sharp s, whose lower case has two letters in upper case;
* `camel_sharp_twice` -- which is then cased a second time.
-/

namespace SchemaRecords.Name

open Text

/-! ## 1. Words with capital letters -/

/-- **The texts that casing leaves as they are** have no separator, and start with a character that is
    its own upper case. -/
theorem pascal_eq_iff {s : String} :
    pascal s = s ↔
      (∀ c ∈ s.toList, isSeparator c = false) ∧ ∀ c ∈ s.toList.head?, upperCase c = [c] := by
  constructor
  · intro h
    by_cases hempty : s = ""
    · subst hempty
      exact ⟨nofun, nofun⟩
    · obtain ⟨d, rest, e, hupper, hs⟩ := Cased.shape ⟨hempty, h⟩
      refine ⟨hs, fun c hc => ?_⟩
      rw [e, List.head?_cons, Option.mem_some_iff] at hc
      exact hc ▸ hupper
  · rintro ⟨hs, hfirst⟩
    refine String.toList_inj.mp ?_
    rw [toList_pascal]
    cases e : s.toList with
    | nil => rfl
    | cons d rest =>
      rw [e] at hs hfirst
      simpa using capitalize_true_append (hfirst d rfl) hs (t := []) (by simp)

/-- Casing again changes nothing. -/
theorem pascal_pascal (s : String) : pascal (pascal s) = pascal s := by
  rcases pascal_cases s with h | h
  · exact h.pascal_eq
  · rw [h]
    rfl

/-- A separator cuts a text into two that are cased one by one. -/
theorem pascal_append_separator (a b : String) {c : Char} (hc : isSeparator c = true) :
    pascal (a ++ String.singleton c ++ b) = pascal a ++ pascal b := by
  refine String.toList_inj.mp ?_
  have htext : (a ++ String.singleton c ++ b).toList = a.toList ++ c :: b.toList := by simp
  rw [String.toList_append, toList_pascal, toList_pascal, toList_pascal, htext,
    capitalize_append_separator hc]

/-- No script has a digit that is a separator. -/
theorem not_isSeparator_of_digitValue? {c : Char} (h : (digitValue? c).isSome = true) :
    isSeparator c = false := by
  have hapart : ∀ z ∈ digitZeros, ∀ n ∈ separatorNumbers, ¬(z ≤ n ∧ n < z + 10) := by
    decide
  rw [digitValue?, Option.isSome_map, List.find?_isSome] at h
  obtain ⟨z, hz, hdigit⟩ := h
  rw [Bool.and_eq_true, decide_eq_true_eq, decide_eq_true_eq] at hdigit
  refine Bool.eq_false_iff.mpr fun hc => ?_
  exact hapart z hz c.toNat (isSeparator_iff.mp hc) hdigit

/-- **The words of a text are cased one by one, and once for all.** No separator is left of a text;
    casing again changes nothing; the parts of a text before and after a separator are cased by
    themselves; and a name that casing leaves as it is stays so when it is composed with any key,
    or when digits are put behind it. -/
theorem pascal_words (s a b : String) :
    (∀ c ∈ (pascal s).toList, isSeparator c = false) ∧ pascal (pascal s) = pascal s ∧
    (∀ c ∈ ['_', '-', ' '], pascal (a ++ String.singleton c ++ b) = pascal a ++ pascal b) ∧
    ∀ name, name ≠ "" → pascal name = name →
      (∀ key depth, pascal (compose name key depth) = compose name key depth) ∧
      ∀ digits : String, (∀ c ∈ digits.toList, (digitValue? c).isSome = true) →
        pascal (name ++ digits) = name ++ digits := by
  have hseparators : ∀ c ∈ ['_', '-', ' '], isSeparator c = true := by simp [isSeparator]
  refine ⟨fun c hc => not_isSeparator_of_mem_pascal hc, pascal_pascal s,
    fun c hc => pascal_append_separator a b (hseparators c hc), fun name hempty hname => ?_⟩
  have hcased : Cased name := ⟨hempty, hname⟩
  refine ⟨fun key depth => (hcased.compose key depth).pascal_eq, fun digits hdigits => ?_⟩
  exact (hcased.append fun c hc => not_isSeparator_of_digitValue? (hdigits c hc)).pascal_eq

/-- A ligature is three letters in upper case, and the first word of a text may be empty. -/
theorem pascal_words_ligature :
    pascal "_ﬃ-straße ﬂ" = "FFIStraßeFL" ∧ pascal "FFIStraßeFL" = "FFIStraßeFL" ∧
      pascal "_ﬃ-straße" ++ pascal "ﬂ" = "FFIStraßeFL" ∧
      pascal (compose "FFI" "ß_2" 1 ++ "2٣") = "FFISS2Item2٣" := by
  obtain ⟨_, hagain, hjoins, hname⟩ := pascal_words "_ﬃ-straße ﬂ" "_ﬃ-straße" "ﬂ"
  have htext : pascal "_ﬃ-straße ﬂ" = "FFIStraßeFL" := by decide
  have hcomposed : compose "FFI" "ß_2" 1 = "FFISS2Item" := by decide +kernel
  obtain ⟨hkeys, _⟩ := hname "FFI" (by decide) (by decide)
  have hitem := hkeys "ß_2" 1
  rw [hcomposed] at hitem
  obtain ⟨_, hdigits⟩ := hname "FFISS2Item" (by decide) hitem
  refine ⟨htext, htext ▸ hagain, (hjoins ' ' (by simp)).symm.trans htext, ?_⟩
  rw [hcomposed]
  exact hdigits "2٣" (List.all_eq_true.mp (by decide))

/-! ## 2. A small first letter -/

/-- The words of a text with the first letter small, where they start with some character. -/
theorem toList_camel_of_pascal {s : String} {c : Char} {rest : List Char}
    (h : (pascal s).toList = c :: rest) : (camel s).toList = lowerCase c ++ rest := by
  rw [toList_camel, ← toList_pascal, h]
  rfl

/-- Where the first letter was made small, casing starts with the upper case of what it became, and
    leaves the rest alone. -/
theorem pascal_camel {s : String} {c d : Char} {rest more : List Char}
    (hs : (pascal s).toList = c :: rest) (hc : lowerCase c = d :: more) :
    (pascal (camel s)).toList = upperCase d ++ (more ++ rest) := by
  have hword : ∀ x ∈ c :: rest, isSeparator x = false := fun x hx =>
    not_isSeparator_of_mem_pascal (hs ▸ hx)
  have hlower : ∀ x ∈ d :: more, isSeparator x = false := fun x hx =>
    not_isSeparator_of_mem_lowerCase (hword c List.mem_cons_self) (hc ▸ hx)
  have hbehind : ∀ x ∈ more ++ rest, isSeparator x = false :=
    List.forall_mem_append.mpr ⟨fun x hx => hlower x (List.mem_cons_of_mem d hx),
      fun x hx => hword x (List.mem_cons_of_mem c hx)⟩
  rw [toList_pascal, toList_camel_of_pascal hs, hc, List.cons_append, capitalize,
    if_neg (by rw [hlower d List.mem_cons_self]; exact Bool.false_ne_true), if_pos rfl,
    capitalize_false_of_forall hbehind]

/-- The words of a text start with a character that is its own upper case. -/
theorem upperCase_head_pascal {s : String} {c : Char} {rest : List Char}
    (h : (pascal s).toList = c :: rest) : upperCase c = [c] := by
  refine (pascal_eq_iff.mp (pascal_pascal s)).2 c ?_
  rw [h]
  rfl

/-- **The small first letter stays** where the words do not start with a capital sharp s. -/
theorem camel_camel {s : String} (h : (pascal s).toList.head? ≠ some capitalSharp) :
    camel (camel s) = camel s := by
  cases hs : (pascal s).toList with
  | nil =>
    have hempty : (camel s).toList = [] := by
      rw [toList_camel, ← toList_pascal, hs]
      rfl
    rw [String.toList_eq_nil_iff.mp hempty]
    rfl
  | cons c rest =>
    have hne : c ≠ capitalSharp := fun e => h (by rw [hs, e]; rfl)
    obtain ⟨d, more, e, hlower, hupper, hback⟩ :=
      lowerCase_settled (upperCase_head_pascal hs) hne
    have hagain := pascal_camel hs hlower
    rw [hupper] at hagain
    refine String.toList_inj.mp ?_
    rw [toList_camel_of_pascal hagain, hback, toList_camel_of_pascal hs, hlower]
    rfl

/-- The capital sharp s is small at first, and two letters then. -/
theorem camel_sharp {s : String} {rest : List Char} (h : (pascal s).toList = capitalSharp :: rest) :
    (camel s).toList = 'ß' :: rest ∧ (pascal (camel s)).toList = 'S' :: 'S' :: rest ∧
      (camel (camel s)).toList = 's' :: 'S' :: rest := by
  obtain ⟨hlower, hupper, hfirst⟩ := lowerTable.sharp
  have hagain := pascal_camel h hlower
  rw [hupper] at hagain
  refine ⟨?_, hagain, ?_⟩
  · rw [toList_camel_of_pascal h, hlower]
    rfl
  · rw [toList_camel_of_pascal hagain, hfirst]
    rfl

/-- **Words with a small first letter are cased once for all exactly where they do not start with a
    capital sharp s**, and at the second time always. -/
theorem camel_camel_iff (s : String) :
    (camel (camel s) = camel s ↔ (pascal s).toList.head? ≠ some capitalSharp) ∧
      camel (camel (camel s)) = camel (camel s) := by
  by_cases h : (pascal s).toList.head? = some capitalSharp
  · obtain ⟨rest, hs⟩ := List.head?_eq_some_iff.mp h
    obtain ⟨hone, hagain, htwo⟩ := camel_sharp hs
    refine ⟨⟨fun hsame => ?_, fun hne => absurd h hne⟩, camel_camel ?_⟩
    · rw [hsame, hone] at htwo
      exact absurd (List.cons.inj htwo).1 (by decide)
    · rw [hagain, List.head?_cons]
      exact fun e => absurd (Option.some.inj e) (by decide)
  · exact ⟨iff_of_true (camel_camel h) h, congrArg camel (camel_camel h)⟩

/-- A capital sharp s is a sharp s with the first letter small, and two letters when that is cased
    again. -/
theorem camel_sharp_twice : camel "ẞ" = "ß" ∧ camel (camel "ẞ") = "sS" := by
  decide

end SchemaRecords.Name

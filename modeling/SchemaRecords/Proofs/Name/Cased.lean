import SchemaRecords.Name.Compose
import SchemaRecords.Proofs.Name.UpperCase

/-!
# Cased names

Names that come out of the casing of words, and what keeps them so.

* `hasWord` -- whether a text has a word at all;
* `Cased` -- a name that is not empty and that casing leaves as it is;
* `cased_pascal` -- every text with a word becomes such a name, and `Cased.append`: what is put
  behind such a name keeps it one, if it has no separator. Composed and numbered names are of this
  kind, and so are numbers (`cased_toString`);
* `pascal_append` -- a cased name behind a text is read as it is;
* `pascal_cases` -- of a text without a word nothing is left.
-/

namespace SchemaRecords.Name

open Text

/-- Whether a text has a word: a character that is no separator. -/
def hasWord (s : String) : Bool := s.toList.any fun c => !isSeparator c

/-- A name that is not empty and that casing leaves as it is. -/
structure Cased (name : String) : Prop where
  ne_empty : name ≠ ""
  pascal_eq : pascal name = name

/-! ## 1. Characters -/

theorem not_isSeparator_of_mem_capitalize {s : List Char} {fresh : Bool} {c : Char}
    (h : c ∈ capitalize fresh s) : isSeparator c = false := by
  induction s generalizing fresh with
  | nil => simp at h
  | cons d rest ih =>
    unfold capitalize at h
    split at h
    · exact ih h
    · rename_i hd
      have hd' : isSeparator d = false := by simpa using hd
      rcases List.mem_append.mp h with h | h
      · cases fresh with
        | true => exact not_isSeparator_of_mem_upperCase hd' h
        | false =>
          rw [if_neg Bool.false_ne_true, List.mem_singleton] at h
          exact h ▸ hd'
      · exact ih h

/-- Inside a word nothing changes. -/
theorem capitalize_false_of_forall {s : List Char} (h : ∀ c ∈ s, isSeparator c = false) :
    capitalize false s = s := by
  induction s with
  | nil => rfl
  | cons c rest ih =>
    have hc := h c List.mem_cons_self
    simp [capitalize, hc, ih fun d hd => h d (List.mem_cons_of_mem c hd)]

/-- The joined words are empty, or start with a character that is its own upper case. -/
theorem capitalize_true_cases (s : List Char) :
    (capitalize true s = [] ∧ ∀ c ∈ s, isSeparator c = true) ∨
      ∃ d rest, capitalize true s = d :: rest ∧ upperCase d = [d] := by
  induction s with
  | nil => exact Or.inl ⟨rfl, by simp⟩
  | cons c rest ih =>
    by_cases hc : isSeparator c = true
    · have e : capitalize true (c :: rest) = capitalize true rest := by simp [capitalize, hc]
      rw [e]
      rcases ih with ⟨h, hs⟩ | h
      · exact Or.inl ⟨h, by simpa [hc] using hs⟩
      · exact Or.inr h
    · obtain ⟨d, more, hd, hu⟩ := upperCase_settled c
      exact Or.inr ⟨d, more ++ capitalize false rest, by simp [capitalize, hc, hd], hu⟩

/-- Separators alone leave nothing. -/
theorem capitalize_true_of_forall {s : List Char} (h : ∀ c ∈ s, isSeparator c = true) :
    capitalize true s = [] := by
  induction s with
  | nil => rfl
  | cons c rest ih =>
    have hc := h c List.mem_cons_self
    simp [capitalize, hc, ih fun d hd => h d (List.mem_cons_of_mem c hd)]

/-- Joined words are read again as the one word that they are, also with more behind them. -/
theorem capitalize_true_append {d : Char} {rest t : List Char} (hd : upperCase d = [d])
    (hs : ∀ c ∈ d :: rest, isSeparator c = false) (ht : ∀ c ∈ t, isSeparator c = false) :
    capitalize true (d :: rest ++ t) = d :: rest ++ t := by
  have hd' := hs d List.mem_cons_self
  have hr : ∀ c ∈ rest ++ t, isSeparator c = false := fun c hc =>
    (List.mem_append.mp hc).elim (fun h => hs c (List.mem_cons_of_mem d h)) (ht c)
  simp [capitalize, hd', hd, capitalize_false_of_forall hr]

/-! ## 2. Cased names -/

theorem not_isSeparator_of_mem_pascal {s : String} {c : Char} (h : c ∈ (pascal s).toList) :
    isSeparator c = false := by
  rw [toList_pascal] at h
  exact not_isSeparator_of_mem_capitalize h

/-- A cased name starts with a character that is its own upper case, and has no separator. -/
theorem Cased.shape {name : String} (h : Cased name) :
    ∃ d rest, name.toList = d :: rest ∧ upperCase d = [d] ∧
      ∀ c ∈ name.toList, isSeparator c = false := by
  have e : name.toList = capitalize true name.toList := by
    rw [← toList_pascal, h.pascal_eq]
  rcases capitalize_true_cases name.toList with ⟨h0, _⟩ | ⟨d, rest, hd, hu⟩
  · exact absurd (String.toList_eq_nil_iff.mp (e.trans h0)) h.ne_empty
  · refine ⟨d, rest, e.trans hd, hu, fun c hc => ?_⟩
    rw [e] at hc
    exact not_isSeparator_of_mem_capitalize hc

theorem Cased.append {name t : String} (h : Cased name)
    (ht : ∀ c ∈ t.toList, isSeparator c = false) : Cased (name ++ t) := by
  obtain ⟨d, rest, e, hu, hs⟩ := h.shape
  refine ⟨fun h0 => h.ne_empty (String.append_eq_empty_iff.mp h0).1, ?_⟩
  refine String.toList_inj.mp ?_
  rw [toList_pascal, String.toList_append, e]
  exact capitalize_true_append hu (e ▸ hs) ht

/-- **A text with a word becomes a cased name.** -/
theorem cased_pascal {s : String} (h : hasWord s = true) : Cased (pascal s) := by
  obtain ⟨c, hc, hw⟩ := List.any_eq_true.mp h
  rcases capitalize_true_cases s.toList with ⟨_, hs⟩ | ⟨d, rest, hd, hu⟩
  · rw [hs c hc] at hw
    cases hw
  · have hl : (pascal s).toList = d :: rest := (toList_pascal s).trans hd
    refine ⟨fun h0 => ?_, String.toList_inj.mp ?_⟩
    · rw [h0] at hl
      cases hl
    · have hs : ∀ c ∈ d :: rest, isSeparator c = false := fun c hc =>
        not_isSeparator_of_mem_pascal (hl ▸ hc)
      have e := capitalize_true_append hu hs (t := []) (by simp)
      rw [toList_pascal, hl]
      simpa using e

theorem Cased.hasWord {name : String} (h : Cased name) : hasWord name = true := by
  obtain ⟨d, rest, e, _, hs⟩ := h.shape
  refine List.any_eq_true.mpr ⟨d, e ▸ List.mem_cons_self, ?_⟩
  rw [hs d (e ▸ List.mem_cons_self)]
  rfl

theorem ne_empty_of_hasWord {s : String} (h : Name.hasWord s = true) : s ≠ "" := by
  rintro rfl
  cases h

theorem hasWord_append {s t : String} (h : Name.hasWord s = true) :
    Name.hasWord (s ++ t) = true := by
  rw [Name.hasWord, String.toList_append, List.any_append, Bool.or_eq_true]
  exact Or.inl h

/-! ## 3. Composed and numbered names -/

theorem not_isSeparator_of_mem_items {depth : Nat} {c : Char} (h : c ∈ (items depth).toList) :
    isSeparator c = false := by
  have hi : ("Item".toList.all fun c => !isSeparator c) = true := by decide
  induction depth with
  | zero => simp [items] at h
  | succ depth ih =>
    rw [items, String.toList_append] at h
    rcases List.mem_append.mp h with h | h
    · simpa using List.all_eq_true.mp hi c h
    · exact ih h

theorem Cased.compose {parent : String} (h : Cased parent) (property : String) (depth : Nat) :
    Cased (compose parent property depth) :=
  (h.append fun _ hc => not_isSeparator_of_mem_pascal hc).append
    fun _ hc => not_isSeparator_of_mem_items hc

theorem not_isSeparator_of_isDigit {c : Char} (h : c.isDigit = true) : isSeparator c = false := by
  refine Bool.eq_false_iff.mpr fun hc => ?_
  simp only [isSeparator, Bool.or_eq_true, beq_iff_eq] at hc
  rcases hc with (rfl | rfl) | rfl <;> revert h <;> decide

theorem isDigit_of_mem_toString {k : Nat} {c : Char} (h : c ∈ (toString k).toList) :
    c.isDigit = true := by
  rw [Nat.toString_eq_repr, Nat.toList_repr] at h
  exact Nat.isDigit_of_mem_toDigits (by decide) (by decide) h

theorem Cased.withNumber {name : String} (h : Cased name) (k : Nat) :
    Cased (withNumber name k) :=
  h.append fun _ hc => not_isSeparator_of_isDigit (isDigit_of_mem_toString hc)

/-- A number is a cased name of its own. -/
theorem cased_toString (k : Nat) : Cased (toString k) := by
  have hdigits : ∀ n ∈ List.range' 48 10, n ∉ upperKeys := by decide +kernel
  cases h : (toString k).toList with
  | nil =>
    rw [Nat.toString_eq_repr, Nat.toList_repr] at h
    exact absurd h Nat.toDigits_ne_nil
  | cons d rest =>
    have hs : ∀ c ∈ d :: rest, isSeparator c = false := fun c hc =>
      not_isSeparator_of_isDigit (isDigit_of_mem_toString (h ▸ hc))
    have hd : upperCase d = [d] := by
      refine upperCase_of_not_mem (hdigits _ (List.mem_range'_1.mpr ?_))
      have hdigit := isDigit_of_mem_toString (h ▸ List.mem_cons_self)
      simp only [Char.isDigit, Bool.and_eq_true, decide_eq_true_eq,
        UInt32.le_iff_toNat_le] at hdigit
      exact ⟨hdigit.1, Nat.lt_succ_of_le hdigit.2⟩
    refine ⟨fun e => ?_, String.toList_inj.mp ?_⟩
    · rw [e] at h
      cases h
    · rw [toList_pascal, h]
      simpa using capitalize_true_append hd hs (t := []) (by simp)

/-- A cased name behind a text stays as it is: it starts a word, or goes on with one. -/
theorem pascal_append {name : String} (h : Cased name) (s : String) :
    pascal (s ++ name) = pascal s ++ name := by
  obtain ⟨d, rest, e, hu, hs⟩ := h.shape
  rw [e] at hs
  have hword : ∀ (fresh : Bool) (l : List Char),
      capitalize fresh (l ++ d :: rest) = capitalize fresh l ++ d :: rest := by
    intro fresh l
    induction l generalizing fresh with
    | nil =>
      have hd := hs d List.mem_cons_self
      have hrest := capitalize_false_of_forall fun c hc => hs c (List.mem_cons_of_mem d hc)
      cases fresh <;> simp [capitalize, hd, hu, hrest]
    | cons c l ih => by_cases hc : isSeparator c = true <;> simp [capitalize, hc, ih]
  refine String.toList_inj.mp ?_
  rw [toList_pascal, String.toList_append, String.toList_append, toList_pascal, e]
  exact hword true s.toList

/-- The mark of arrays is a cased name of its own. -/
theorem cased_items (depth : Nat) : Cased (items (depth + 1)) := by
  have hitem : Cased "Item" := ⟨by decide, by decide +kernel⟩
  exact hitem.append fun _ hc => not_isSeparator_of_mem_items hc

/-- Of a text without a word nothing is left. -/
theorem pascal_eq_empty {s : String} (h : hasWord s = false) : pascal s = "" := by
  refine String.toList_inj.mp ((toList_pascal s).trans ?_)
  have hs : ∀ c ∈ s.toList, isSeparator c = true := by simpa [hasWord] using h
  exact capitalize_true_of_forall hs

/-- A text has a word, or nothing is left of it. -/
theorem pascal_cases (s : String) : Cased (pascal s) ∨ pascal s = "" := by
  cases h : hasWord s with
  | true => exact Or.inl (cased_pascal h)
  | false => exact Or.inr (pascal_eq_empty h)

end SchemaRecords.Name

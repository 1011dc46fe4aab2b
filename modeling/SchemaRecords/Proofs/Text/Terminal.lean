import Mathlib
import SchemaRecords.Text.Terminal

/-!
# Texts that are shown as they are

* `Plain` -- characters among which no control sequence stands;
* `Ends`, `endingLength?_isSome` -- what a control sequence ends with, said without counting;
* `shown_eq_self` -- exactly the plain texts are shown as they are.
-/

namespace SchemaRecords.Text

/-- **Characters among which no control sequence stands**: behind an escape character, a bracket and
    some parameters there is no letter. -/
def Plain (text : List Char) : Prop :=
  ∀ before parameters letter after,
    text = before ++ escape :: '[' :: (parameters ++ letter :: after) →
      (∀ c ∈ parameters, isParameter c = true) → letter.isAlpha = false

/-! ## 1. Where a control sequence stands -/

theorem not_isParameter_of_isAlpha {c : Char} (h : c.isAlpha = true) : isParameter c = false := by
  refine Bool.eq_false_iff.mpr fun hc => ?_
  simp only [isParameter, Bool.or_eq_true, beq_iff_eq] at hc
  rcases hc with (hdigit | rfl) | rfl
  · simp only [Char.isAlpha, Char.isUpper, Char.isLower, Char.isDigit, Bool.or_eq_true,
      Bool.and_eq_true, decide_eq_true_eq, UInt32.le_iff_toNat_le] at h hdigit
    have hsmall : c.val.toNat ≤ 57 := hdigit.2
    have hlarge : 65 ≤ c.val.toNat := h.elim (·.1) fun h => Nat.le_trans (by decide) h.1
    omega
  · revert h
    decide
  · revert h
    decide

/-- **Characters that a control sequence can end with**: some parameters at the front, and then a
    letter. -/
def Ends (s : List Char) : Prop :=
  ∃ parameters letter after, s = parameters ++ letter :: after ∧
    (∀ c ∈ parameters, isParameter c = true) ∧ letter.isAlpha = true

section ends

variable {c : Char} {rest : List Char}

/-- A parameter does not end it, as it is no letter. -/
theorem ends_cons_of_isParameter (hc : isParameter c = true) : Ends (c :: rest) ↔ Ends rest := by
  constructor
  · rintro ⟨parameters, letter, after, e, hp, hl⟩
    cases parameters with
    | nil =>
      cases e
      rw [not_isParameter_of_isAlpha hl] at hc
      cases hc
    | cons d parameters =>
      cases e
      exact ⟨parameters, letter, after, rfl, (List.forall_mem_cons.mp hp).2, hl⟩
  · rintro ⟨parameters, letter, after, rfl, hp, hl⟩
    exact ⟨c :: parameters, letter, after, rfl, List.forall_mem_cons.mpr ⟨hc, hp⟩, hl⟩

/-- Any other character ends it at once, or not at all. -/
theorem ends_cons_of_not_isParameter (hc : ¬isParameter c = true) :
    Ends (c :: rest) ↔ c.isAlpha = true := by
  constructor
  · rintro ⟨parameters, letter, after, e, hp, hl⟩
    cases parameters with
    | nil =>
      cases e
      exact hl
    | cons d parameters =>
      cases e
      exact absurd (List.forall_mem_cons.mp hp).1 hc
  · exact fun hl => ⟨[], c, rest, rfl, List.forall_mem_nil _, hl⟩

end ends

/-- **An end is found where there is one.** -/
theorem endingLength?_isSome {s : List Char} : (endingLength? s).isSome = true ↔ Ends s := by
  induction s with
  | nil => simp [endingLength?, Ends]
  | cons c rest ih =>
    rw [endingLength?]
    split
    · rename_i hc
      rw [Option.isSome_map, ih, ends_cons_of_isParameter hc]
    · rename_i hc
      rw [ends_cons_of_not_isParameter hc]
      split
      · exact iff_of_true rfl ‹_›
      · exact iff_of_false Bool.false_ne_true ‹_›

theorem sequenceLength?_isSome {s : List Char} :
    (sequenceLength? s).isSome = true ↔ ∃ parameters letter after,
      s = escape :: '[' :: (parameters ++ letter :: after) ∧
        (∀ c ∈ parameters, isParameter c = true) ∧ letter.isAlpha = true := by
  unfold sequenceLength?
  split
  · rename_i first rest
    by_cases hfirst : first = escape
    · rw [if_pos (by simpa using hfirst), Option.isSome_map, endingLength?_isSome, hfirst]
      simp [Ends]
    · rw [if_neg (by simpa using hfirst)]
      refine iff_of_false Bool.false_ne_true ?_
      rintro ⟨_, _, _, e, _⟩
      exact hfirst (List.cons.inj e).1
  · rename_i hshape
    refine iff_of_false Bool.false_ne_true ?_
    rintro ⟨_, _, _, e, _⟩
    exact hshape _ _ e

/-- Characters are plain where no control sequence is at their front and those behind the first are
    plain. -/
theorem plain_cons {c : Char} {rest : List Char} :
    Plain (c :: rest) ↔ sequenceLength? (c :: rest) = none ∧ Plain rest := by
  rw [← Option.not_isSome_iff_eq_none, sequenceLength?_isSome]
  constructor
  · refine fun h => ⟨?_, ?_⟩
    · rintro ⟨parameters, letter, after, e, hp, hl⟩
      rw [h [] parameters letter after e hp] at hl
      cases hl
    · rintro before parameters letter after rfl hp
      exact h (c :: before) parameters letter after rfl hp
  · rintro ⟨hfront, hrest⟩ before parameters letter after e hp
    cases before with
    | nil =>
      refine Bool.eq_false_iff.mpr fun hl => hfront ⟨parameters, letter, after, e, hp, hl⟩
    | cons d before =>
      cases e
      exact hrest before parameters letter after rfl hp

/-- What stands in plain characters is plain. -/
theorem Plain.infix {before text after : List Char} (h : Plain (before ++ (text ++ after))) :
    Plain text := by
  rintro front parameters letter back rfl hp
  refine h (before ++ front) parameters letter (back ++ after) ?_ hp
  simp only [List.append_assoc, List.cons_append]

/-! ## 2. What is shown -/

theorem length_dropSequences_le (skip : Nat) (s : List Char) :
    (dropSequences skip s).length ≤ s.length := by
  fun_induction dropSequences skip s with
  | case1 => simp
  | case2 skip c rest ih => exact Nat.le_succ_of_le ih
  | case3 c rest length _ ih => exact Nat.le_succ_of_le ih
  | case4 c rest _ ih => exact Nat.succ_le_succ ih

theorem dropSequences_eq_self {s : List Char} : dropSequences 0 s = s ↔ Plain s := by
  induction s with
  | nil => exact iff_of_true rfl (by simp [Plain])
  | cons c rest ih =>
    rw [plain_cons, dropSequences]
    split
    · rename_i length hlength
      refine iff_of_false (fun e => ?_) fun h => ?_
      · have hle := length_dropSequences_le (length - 1) rest
        rw [e, List.length_cons] at hle
        omega
      · rw [hlength] at h
        cases h.1
    · rename_i hnone
      rw [List.cons_inj_right, ih]
      exact (and_iff_right hnone).symm

/-- **Exactly the plain texts are shown as they are.** -/
theorem shown_eq_self {text : String} : shown text = text ↔ Plain text.toList := by
  rw [← dropSequences_eq_self, shown]
  exact ⟨fun e => by rw [← String.toList_inj] at e; simpa using e,
    fun e => by rw [e, String.ofList_toList]⟩

end SchemaRecords.Text

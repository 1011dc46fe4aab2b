import SchemaRecords.Proofs.Text.Terminal
import SchemaRecords.Proofs.Text.Units
import SchemaRecords.Text.Utf8

/-!
# Texts that are refused for their halves

* `refusal?_eq_none` -- a text is taken exactly if each of its characters is;
* `forall_dropSequences` -- what is true of all characters of control sequences is true of those that
  are shown exactly if it is of all;
* `refusal?_shown` -- so **a text is taken as it is shown exactly if it is taken as it is**.
-/

namespace SchemaRecords.Text.Utf8

variable {handling : Handling} {c : Char} {s t : String}

/-! ## 1. Characters that are taken -/

theorem takes_of_not_isHalf (handling : Handling) (h : isHalf c = false) :
    handling.takes c = true := by
  rw [Handling.takes, h]
  rfl

/-- **A text is taken exactly if each of its characters is.** -/
theorem refusal?_eq_none :
    refusal? handling s = none ↔ ∀ c ∈ s.toList, handling.takes c = true := by
  unfold refusal?
  rw [← List.dropWhile_eq_nil_iff]
  cases s.toList.dropWhile handling.takes with
  | nil => exact iff_of_true rfl rfl
  | cons c rest => exact iff_of_false nofun nofun

theorem refusal?_append :
    refusal? handling (s ++ t) = none ↔ refusal? handling s = none ∧ refusal? handling t = none := by
  rw [refusal?_eq_none, refusal?_eq_none, refusal?_eq_none, String.toList_append,
    List.forall_mem_append]

/-- A text without halves is taken. -/
theorem refusal?_of_forall (h : ∀ c ∈ s.toList, isHalf c = false) : refusal? handling s = none :=
  refusal?_eq_none.mpr fun c hc => takes_of_not_isHalf handling (h c hc)

/-! ## 2. Control sequences -/

/-- A control sequence has some characters. -/
theorem sequenceLength?_pos {n : Nat} {l : List Char} (h : sequenceLength? l = some n) :
    1 ≤ n := by
  unfold sequenceLength? at h
  split at h
  · split at h
    · obtain ⟨m, _, rfl⟩ := Option.map_eq_some_iff.mp h
      exact Nat.le_add_left 1 (m + 1)
    · cases h
  · cases h

section

variable {p : Char → Prop} (hescape : p escape) (hbracket : p '[')
  (hparameter : ∀ c, isParameter c = true → p c) (hletter : ∀ c, c.isAlpha = true → p c)

include hparameter hletter in
/-- What is true of parameters and letters is true of the end of a control sequence. -/
theorem forall_take_ending {n : Nat} {l : List Char} (h : endingLength? l = some n) :
    ∀ c ∈ l.take n, p c := by
  induction l generalizing n with
  | nil => cases h
  | cons d rest ih =>
    rw [endingLength?] at h
    split at h
    · rename_i hd
      obtain ⟨m, hm, rfl⟩ := Option.map_eq_some_iff.mp h
      exact List.forall_mem_cons.mpr ⟨hparameter d hd, ih hm⟩
    · split at h
      · rename_i hd
        obtain rfl := Option.some.inj h
        exact List.forall_mem_singleton.mpr (hletter d hd)
      · cases h

include hescape hbracket hparameter hletter in
theorem forall_take_sequence {n : Nat} {l : List Char} (h : sequenceLength? l = some n) :
    ∀ c ∈ l.take n, p c := by
  unfold sequenceLength? at h
  split at h
  · rename_i first rest
    split at h
    · rename_i hfirst
      obtain ⟨m, hm, rfl⟩ := Option.map_eq_some_iff.mp h
      exact List.forall_mem_cons.mpr ⟨eq_of_beq hfirst ▸ hescape,
        List.forall_mem_cons.mpr ⟨hbracket, forall_take_ending hparameter hletter hm⟩⟩
    · cases h
  · cases h

include hescape hbracket hparameter hletter in
/-- **What is true of all characters of control sequences** is true of the characters that are shown
    exactly if it is true of all. -/
theorem forall_dropSequences (skip : Nat) (l : List Char) :
    (∀ c ∈ dropSequences skip l, p c) ↔ ∀ c ∈ l.drop skip, p c := by
  fun_induction dropSequences skip l with
  | case1 skip => simp
  | case2 skip c rest ih => exact ih
  | case3 c rest length hlength ih =>
    -- the sequence at the front has only such characters, so it does not count
    have htaken := forall_take_sequence hescape hbracket hparameter hletter hlength
    obtain ⟨more, rfl⟩ := Nat.exists_eq_add_of_le' (sequenceLength?_pos hlength)
    rw [List.take_succ_cons, List.forall_mem_cons] at htaken
    rw [ih, List.drop_zero, List.forall_mem_cons, Nat.add_sub_cancel]
    refine ⟨fun h => ⟨htaken.1, ?_⟩, fun h c hc => h.2 c (List.mem_of_mem_drop hc)⟩
    rw [← List.take_append_drop more rest]
    exact List.forall_mem_append.mpr ⟨htaken.2, h⟩
  | case4 c rest _ ih =>
    rw [List.drop_zero] at ih ⊢
    rw [List.forall_mem_cons, List.forall_mem_cons, ih]

end

/-- **A text is taken as it is shown exactly if it is taken as it is.** -/
theorem refusal?_shown : refusal? handling (shown s) = none ↔ refusal? handling s = none := by
  have hbelow {c : Char} (h : c.toNat < 0x80) : handling.takes c = true := by
    refine takes_of_not_isHalf handling ?_
    rw [← Bool.not_eq_true, isHalf_iff]
    omega
  have hletter (c : Char) (h : c.isAlpha = true) : handling.takes c = true := by
    refine hbelow ?_
    simp only [Char.isAlpha, Char.isUpper, Char.isLower, Bool.or_eq_true, Bool.and_eq_true,
      decide_eq_true_eq, UInt32.le_iff_toNat_le] at h
    rcases h with ⟨_, h⟩ | ⟨_, h⟩
    · exact lt_of_le_of_lt h (by decide)
    · exact lt_of_le_of_lt h (by decide)
  have hparameter (c : Char) (h : isParameter c = true) : handling.takes c = true := by
    refine hbelow ?_
    simp only [isParameter, Char.isDigit, Bool.or_eq_true, Bool.and_eq_true, decide_eq_true_eq,
      UInt32.le_iff_toNat_le, beq_iff_eq] at h
    rcases h with (⟨_, h⟩ | rfl) | rfl
    · exact lt_of_le_of_lt h (by decide)
    · decide
    · decide
  rw [refusal?_eq_none, refusal?_eq_none, shown, String.toList_ofList,
    forall_dropSequences (hbelow (by decide)) (hbelow (by decide)) hparameter hletter,
    List.drop_zero]

end SchemaRecords.Text.Utf8

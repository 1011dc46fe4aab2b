import Mathlib
import SchemaRecords.Text.Half

/-!
# Units of sixteen bits

A text as the units of sixteen bits that stand for its characters: one for a character of the basic
plane or a half, and the two halves of a pair for any other.

* `ofNumber_number` -- every character is the one of its number, and `number_ofNumber_of_half` -- a
  half keeps its number;
* `unitsOfNumber`, `unitsOf`, `units` -- the units of a character by its number, those of a
  character, and those of a text;
* `Unsplit` -- the texts in which no first half stands before a second one, which would be read as
  one character.
-/

namespace SchemaRecords.Text

/-! ## 1. Numbers -/

/-- The number of a character lies below the halves, or above them and in range. -/
theorem toNat_valid (c : Char) : c.toNat < 0xD800 ∨ 0xDFFF < c.toNat ∧ c.toNat < 0x110000 := c.valid

theorem toNat_ofNat_eq {n : Nat} (h : n < 0xD800 ∨ 0xDFFF < n ∧ n < 0x110000) :
    (Char.ofNat n).toNat = n := by
  have hv : n.isValidChar := by
    unfold Nat.isValidChar
    omega
  rw [Char.ofNat, dif_pos hv]
  rfl

theorem isHigh_iff {n : Nat} : isHigh n = true ↔ 0xD800 ≤ n ∧ n < 0xDC00 := by
  rw [isHigh, Bool.and_eq_true, decide_eq_true_iff, decide_eq_true_iff]

theorem isLow_iff {n : Nat} : isLow n = true ↔ 0xDC00 ≤ n ∧ n < 0xE000 := by
  rw [isLow, Bool.and_eq_true, decide_eq_true_iff, decide_eq_true_iff]

theorem isHalf_iff {c : Char} : isHalf c = true ↔ 0xDD800 ≤ c.toNat ∧ c.toNat < 0xDE000 := by
  rw [isHalf, Bool.and_eq_true, decide_eq_true_iff, decide_eq_true_iff]

/-- The numbers of halves, and the numbers of all others, which are the characters' own. -/
theorem number_cases (c : Char) :
    (isHalf c = true ∧ 0xD800 ≤ number c ∧ number c < 0xE000 ∧ c.toNat = number c + halfShift) ∨
      (isHalf c = false ∧ number c = c.toNat ∧ (number c < 0xD800 ∨ 0xDFFF < number c)) := by
  unfold number halfShift
  cases h : isHalf c with
  | true =>
    obtain ⟨hlow, hhigh⟩ := isHalf_iff.mp h
    rw [if_pos rfl]
    exact Or.inl ⟨rfl, by omega, by omega, by omega⟩
  | false =>
    have hvalid := toNat_valid c
    rw [if_neg Bool.false_ne_true]
    exact Or.inr ⟨rfl, rfl, hvalid.imp_right And.left⟩

theorem number_lt (c : Char) : number c < 0x110000 := by
  have hvalid := toNat_valid c
  rcases number_cases c with ⟨_, _, h, _⟩ | ⟨_, h, _⟩ <;> omega

theorem not_isHalf_received (c : Char) : isHalf (received c) = false := by
  unfold received
  cases h : isHalf c with
  | true => rfl
  | false => exact h

/-- No character is in a text that comes from outside that was not in it, but for the replacement. -/
theorem mem_toList_receive {s : String} {c : Char} (hc : c ≠ replacement)
    (h : c ∈ (receive s).toList) : c ∈ s.toList := by
  rw [receive, String.toList_ofList] at h
  obtain ⟨d, hd, hreceived⟩ := List.mem_map.mp h
  unfold received at hreceived
  split at hreceived
  · exact absurd hreceived.symm hc
  · exact hreceived ▸ hd

/-- **Every character is the one of its number.** -/
theorem ofNumber_number (c : Char) : ofNumber (number c) = c := by
  unfold ofNumber
  rcases number_cases c with ⟨_, hlow, hhigh, hc⟩ | ⟨hhalf, hc, hout⟩
  · have hhalf : (isHigh (number c) || isLow (number c)) = true := by
      rw [Bool.or_eq_true, isHigh_iff, isLow_iff]
      omega
    rw [if_pos hhalf, ← hc, Char.ofNat_toNat]
  · have hnone : ¬(isHigh (number c) || isLow (number c)) = true := by
      rw [Bool.or_eq_true, isHigh_iff, isLow_iff]
      omega
    rw [if_neg hnone, hc, Char.ofNat_toNat, received, hhalf, if_neg Bool.false_ne_true]

/-- **A half keeps its number**, -/
theorem number_ofNumber_of_half {n : Nat} (h : (isHigh n || isLow n) = true) :
    number (ofNumber n) = n := by
  have hn : 0xD800 ≤ n ∧ n < 0xE000 := by
    rw [Bool.or_eq_true, isHigh_iff, isLow_iff] at h
    omega
  have hchar : (Char.ofNat (n + halfShift)).toNat = n + halfShift :=
    toNat_ofNat_eq (by unfold halfShift; omega)
  have hhalf : isHalf (Char.ofNat (n + halfShift)) = true := by
    rw [isHalf_iff, hchar]
    unfold halfShift
    omega
  rw [ofNumber, if_pos h, number, if_pos hhalf, hchar]
  omega

/-- and no other number is read as that of a half. -/
theorem isHalf_ofNumber (n : Nat) : isHalf (ofNumber n) = (isHigh n || isLow n) := by
  cases h : isHigh n || isLow n with
  | true =>
    rcases number_cases (ofNumber n) with ⟨hhalf, _⟩ | ⟨_, _, hout⟩
    · exact hhalf
    · rw [number_ofNumber_of_half h] at hout
      rw [Bool.or_eq_true, isHigh_iff, isLow_iff] at h
      omega
  | false =>
    rw [ofNumber, h, if_neg Bool.false_ne_true]
    exact not_isHalf_received _

/-- The number that is no half's is not read as one of a first half, nor of a second. -/
theorem half_number (c : Char) (h : isHalf c = false) :
    isHigh (number c) = false ∧ isLow (number c) = false := by
  rcases number_cases c with ⟨hhalf, _⟩ | ⟨_, _, hout⟩
  · rw [h] at hhalf
    cases hhalf
  · rw [← Bool.not_eq_true, ← Bool.not_eq_true, isHigh_iff, isLow_iff]
    omega

theorem isHigh_number_ofNumber (n : Nat) : isHigh (number (ofNumber n)) = isHigh n := by
  cases h : isHigh n || isLow n with
  | true => rw [number_ofNumber_of_half h]
  | false =>
    rw [(half_number _ ((isHalf_ofNumber n).trans h)).1, (Bool.or_eq_false_iff.mp h).1]

theorem isLow_number_ofNumber (n : Nat) : isLow (number (ofNumber n)) = isLow n := by
  cases h : isHigh n || isLow n with
  | true => rw [number_ofNumber_of_half h]
  | false =>
    rw [(half_number _ ((isHalf_ofNumber n).trans h)).2, (Bool.or_eq_false_iff.mp h).2]

/-- A number whose character lies below the halves is that of the character. -/
theorem eq_toNat_ofNumber {n : Nat} (hn : n < 0x110000) (h : (ofNumber n).toNat < 0xD800) :
    n = (ofNumber n).toNat := by
  cases hhalf : isHigh n || isLow n with
  | true =>
    rcases number_cases (ofNumber n) with ⟨_, _, _, hc⟩ | ⟨hnot, _⟩
    · unfold halfShift at hc
      omega
    · rw [isHalf_ofNumber, hhalf] at hnot
      cases hnot
  | false =>
    have hchar : (Char.ofNat n).toNat = n := toNat_ofNat_eq (by
      rw [Bool.or_eq_false_iff, ← Bool.not_eq_true, ← Bool.not_eq_true, isHigh_iff, isLow_iff]
        at hhalf
      omega)
    rw [ofNumber, hhalf, if_neg Bool.false_ne_true, received] at h ⊢
    split at h
    · exact absurd h (by decide)
    · rename_i hout
      rw [if_neg hout, hchar]

/-! ## 2. Units -/

/-- The units of a character by its number. -/
def unitsOfNumber (n : Nat) : List Nat :=
  if n < 0x10000 then [n]
  else [0xD800 + (n - 0x10000) / 0x400, 0xDC00 + (n - 0x10000) % 0x400]

/-- The units of a character. -/
def unitsOf (c : Char) : List Nat := unitsOfNumber (number c)

/-- The units of a text. -/
def units (s : List Char) : List Nat := s.flatMap unitsOf

@[simp] theorem units_nil : units [] = [] := rfl

@[simp] theorem units_cons (c : Char) (s : List Char) : units (c :: s) = unitsOf c ++ units s := by
  rw [units, units, List.flatMap_cons]

@[simp] theorem units_append (s t : List Char) : units (s ++ t) = units s ++ units t := by
  rw [units, units, units, List.flatMap_append]

theorem length_unitsOfNumber (n : Nat) :
    1 ≤ (unitsOfNumber n).length ∧ (unitsOfNumber n).length ≤ 2 := by
  unfold unitsOfNumber
  split <;> simp

/-- The units of a text have sixteen bits. -/
theorem units_lt {s : List Char} : ∀ n ∈ units s, n < 0x10000 := by
  intro n hn
  obtain ⟨c, _, hc⟩ := List.mem_flatMap.mp hn
  have hlt := number_lt c
  rw [unitsOf, unitsOfNumber] at hc
  split at hc
  · rwa [List.mem_singleton.mp hc]
  · rw [List.mem_pair] at hc
    omega

/-- The number of a half is one of the units. -/
theorem number_mem_units {s : List Char} {c : Char} (hc : c ∈ s) (h : isHalf c = true) :
    number c ∈ units s := by
  refine List.mem_flatMap.mpr ⟨c, hc, ?_⟩
  rcases number_cases c with ⟨_, _, hlt, _⟩ | ⟨hnot, _⟩
  · rw [unitsOf, unitsOfNumber, if_pos (by omega)]
    exact List.mem_singleton_self _
  · rw [h] at hnot
    cases hnot

/-- A text has at least as many units as characters. -/
theorem length_le_length_units (s : List Char) : s.length ≤ (units s).length := by
  induction s with
  | nil => exact Nat.le_refl 0
  | cons c rest ih =>
    have h := (length_unitsOfNumber (number c)).1
    rw [units_cons, List.length_append, List.length_cons, unitsOf]
    omega

/-! ## 3. Texts without split pairs -/

/-- Two characters that are the halves of one pair. -/
def ArePair (c d : Char) : Prop := isHigh (number c) = true ∧ isLow (number d) = true

/-- **A text in which the two halves of a pair never stand side by side.** -/
def Unsplit (s : List Char) : Prop := s.IsChain fun c d => ¬ArePair c d

/-- A text without halves has no split pairs. -/
theorem unsplit_of_forall {s : List Char} (h : ∀ c ∈ s, isHalf c = false) : Unsplit s := by
  induction s with
  | nil => exact .nil
  | cons c rest ih =>
    obtain ⟨hc, hrest⟩ := List.forall_mem_cons.mp h
    exact (ih hrest).cons fun d _ hpair => Bool.false_ne_true ((half_number c hc).1 ▸ hpair.1)

end SchemaRecords.Text

import Mathlib
import SchemaRecords.Name.Casing

/-!
# What upper case leaves behind

The upper case of a character starts with a character that upper case leaves alone, and it never
brings in a separator. Both are read off the tables of the case mappings.

* `bits` -- a set of numbers as one number, so that two tables are compared by one operation;
* `UpperTable` -- what is read off the table;
* `mapCase_cases`, `mapCase_of_not_mem`, `mem_mapCase` -- what a case table makes of a character;
* `upperCase_settled`, `not_isSeparator_of_mem_upperCase` -- the two facts; `mem_upperCase` -- which
  other characters it may bring in.
-/

namespace SchemaRecords.Text

/-! ## 1. Sets of numbers as numbers -/

/-- The number whose bits at the given places are set. -/
def bits : List Nat → Nat
  | [] => 0
  | n :: rest => bits rest ||| 1 <<< n

theorem testBit_bits (ns : List Nat) (n : Nat) : (bits ns).testBit n = decide (n ∈ ns) := by
  induction ns with
  | nil => simp [bits]
  | cons m rest ih =>
    rw [bits, Nat.testBit_or, ih, Nat.one_shiftLeft, Nat.testBit_two_pow, ← Bool.decide_or]
    simp only [List.mem_cons, eq_comm (a := m), or_comm]

theorem not_mem_of_land_bits {as bs : List Nat} (h : bits as &&& bits bs = 0) {n : Nat}
    (ha : n ∈ as) : n ∉ bs := by
  intro hb
  have ht : (bits as &&& bits bs).testBit n = true := by
    rw [Nat.testBit_and, testBit_bits, testBit_bits, decide_eq_true ha, decide_eq_true hb]
    rfl
  rw [h, Nat.zero_testBit] at ht
  cases ht

/-! ## 2. The tables -/

/-- The numbers on a run. -/
def CaseRun.numbers (r : CaseRun) : List Nat :=
  List.range' r.first ((r.last - r.first) / r.step + 1) r.step

/-- The numbers that those on a run move to. -/
def CaseRun.images (r : CaseRun) : List Nat :=
  r.numbers.map fun n : Nat => (n + r.shift).toNat

theorem CaseRun.mem_numbers {r : CaseRun} {n : Nat} (h : r.covers n = true) : n ∈ r.numbers := by
  simp only [covers, Bool.and_eq_true, decide_eq_true_eq, beq_iff_eq] at h
  obtain ⟨⟨h1, h2⟩, h3⟩ := h
  have hd := Nat.div_add_mod (n - r.first) r.step
  have hm : (n - r.first) / r.step ≤ (r.last - r.first) / r.step :=
    Nat.div_le_div_right (by omega)
  exact List.mem_range'.mpr ⟨(n - r.first) / r.step, by omega, by omega⟩

/-- The numbers that upper case changes. -/
def upperKeys : List Nat := upperRuns.flatMap CaseRun.numbers ++ upperSpecials.map (·.1)

/-- The numbers that an upper case starts with, where it is not the character itself. -/
def upperHeads : List Nat :=
  upperRuns.flatMap CaseRun.images ++ upperSpecials.map fun e => e.2.headD 0

/-- The numbers that an upper case brings in. -/
def upperImages : List Nat := upperRuns.flatMap CaseRun.images ++ upperSpecials.flatMap (·.2)

/-- The numbers of the separators. -/
def separatorNumbers : List Nat := [0x5F, 0x2D, 0x20]

/-- What is read off the table of upper case. -/
structure UpperTable : Prop where
  heads : bits upperHeads &&& bits upperKeys = 0
  images : bits upperImages &&& bits separatorNumbers = 0
  valid : ∀ n ∈ upperImages, n.isValidChar
  filled : ∀ e ∈ upperSpecials, e.2 ≠ []

theorem upperTable : UpperTable where
  heads := by decide +kernel
  images := by decide +kernel
  valid := by decide +kernel
  filled := by decide +kernel

theorem toNat_ofNat_of_valid {n : Nat} (h : n.isValidChar) : (Char.ofNat n).toNat = n := by
  rw [Char.toNat_ofNat, if_pos h]

theorem isSeparator_iff {c : Char} : Name.isSeparator c = true ↔ c.toNat ∈ separatorNumbers := by
  have h (n : Nat) (d : Char) (hd : d.toNat = n) : c = d ↔ c.toNat = n := by
    rw [← hd]
    exact ⟨fun e => e ▸ rfl, fun e => Char.toNat_inj.mp e⟩
  simp [Name.isSeparator, separatorNumbers, h 0x5F '_' rfl, h 0x2D '-' rfl, h 0x20 ' ' rfl,
    or_assoc]

/-! ## 3. Where an upper case comes from -/

theorem mem_of_lookup {table : List (Nat × List Nat)} {n : Nat} {image : List Nat}
    (h : table.lookup n = some image) : (n, image) ∈ table := by
  obtain ⟨l₁, l₂, rfl, _⟩ := List.lookup_eq_some_iff.mp h
  exact List.mem_append_right l₁ List.mem_cons_self

/-- A character through a case table is itself, or moves with a run that it lies on, or is one of
    those that become several characters. -/
theorem mapCase_cases (runs : List CaseRun) (specials : List (Nat × List Nat)) (c : Char) :
    mapCase runs specials c = [c] ∨
    (∃ r ∈ runs, r.covers c.toNat = true ∧
      mapCase runs specials c = [Char.ofNat (c.toNat + r.shift).toNat]) ∨
    ∃ e ∈ specials, c.toNat = e.1 ∧ mapCase runs specials c = e.2.map Char.ofNat := by
  unfold mapCase
  split
  · rename_i image hi
    exact Or.inr (Or.inr ⟨(c.toNat, image), mem_of_lookup hi, rfl, rfl⟩)
  · split
    · rename_i run hr
      have hc := List.find?_some hr
      exact Or.inr (Or.inl ⟨run, List.mem_of_find?_eq_some hr, hc, rfl⟩)
    · exact Or.inl rfl

/-- What a run moves to is one of its images. -/
theorem CaseRun.mem_images {r : CaseRun} {n : Nat} (h : r.covers n = true) :
    (n + r.shift).toNat ∈ r.images :=
  List.mem_map_of_mem (f := fun n : Nat => (n + r.shift).toNat) (CaseRun.mem_numbers h)

/-- A character whose number is no key of a case table is left alone. -/
theorem mapCase_of_not_mem {runs : List CaseRun} {specials : List (Nat × List Nat)} {c : Char}
    (h : c.toNat ∉ runs.flatMap CaseRun.numbers ++ specials.map (·.1)) :
    mapCase runs specials c = [c] := by
  rw [List.mem_append, not_or] at h
  rcases mapCase_cases runs specials c with hsame | ⟨r, hr, hc, _⟩ | ⟨e, he, hc, _⟩
  · exact hsame
  · exact absurd (List.mem_flatMap.mpr ⟨r, hr, CaseRun.mem_numbers hc⟩) h.1
  · exact absurd (hc ▸ List.mem_map_of_mem he) h.2

/-- The upper case of a character is itself, or its image on a run, or one of those that are
    several characters. -/
theorem upperCase_cases (c : Char) :
    upperCase c = [c] ∨
    (∃ n ∈ upperRuns.flatMap CaseRun.images, upperCase c = [Char.ofNat n]) ∨
    ∃ e ∈ upperSpecials, upperCase c = e.2.map Char.ofNat := by
  rcases mapCase_cases upperRuns upperSpecials c with h | ⟨r, hr, hc, h⟩ | ⟨e, he, _, h⟩
  · exact Or.inl h
  · exact Or.inr (Or.inl ⟨_, List.mem_flatMap.mpr ⟨r, hr, CaseRun.mem_images hc⟩, h⟩)
  · exact Or.inr (Or.inr ⟨e, he, h⟩)

/-- A character whose number is no key of the tables is its own upper case. -/
theorem upperCase_of_not_mem {c : Char} (h : c.toNat ∉ upperKeys) : upperCase c = [c] :=
  mapCase_of_not_mem h

theorem upperCase_of_mem_upperHeads {n : Nat} (hv : n.isValidChar) (hn : n ∈ upperHeads) :
    upperCase (Char.ofNat n) = [Char.ofNat n] := by
  refine upperCase_of_not_mem ?_
  rw [toNat_ofNat_of_valid hv]
  exact not_mem_of_land_bits upperTable.heads hn

/-- **The upper case of a character starts with a character that is its own upper case.** -/
theorem upperCase_settled (c : Char) : ∃ d rest, upperCase c = d :: rest ∧ upperCase d = [d] := by
  rcases upperCase_cases c with h | ⟨n, hn, h⟩ | ⟨e, he, h⟩
  · exact ⟨c, [], h, h⟩
  · have hv := upperTable.valid n (List.mem_append_left _ hn)
    exact ⟨_, [], h, upperCase_of_mem_upperHeads hv (List.mem_append_left _ hn)⟩
  · have hne := upperTable.filled e he
    have hm : e.2.headD 0 ∈ upperHeads := List.mem_append_right _ (List.mem_map_of_mem he)
    cases hi : e.2 with
    | nil => exact absurd hi hne
    | cons n rest =>
      have hn : n ∈ upperImages :=
        List.mem_append_right _ (List.mem_flatMap.mpr ⟨e, he, hi ▸ List.mem_cons_self⟩)
      rw [hi] at h hm
      exact ⟨_, _, h, upperCase_of_mem_upperHeads (upperTable.valid n hn) hm⟩

/-- What stands in the image of a character under a case table is the character itself, or the table
    brings it in. -/
theorem mem_mapCase {runs : List CaseRun} {specials : List (Nat × List Nat)}
    (hvalid : ∀ n ∈ runs.flatMap CaseRun.images ++ specials.flatMap (·.2), n.isValidChar)
    {c d : Char} (h : d ∈ mapCase runs specials c) :
    d = c ∨ d.toNat ∈ runs.flatMap CaseRun.images ++ specials.flatMap (·.2) := by
  have hbrought {n : Nat} (hn : n ∈ runs.flatMap CaseRun.images ++ specials.flatMap (·.2)) :
      (Char.ofNat n).toNat ∈ runs.flatMap CaseRun.images ++ specials.flatMap (·.2) := by
    rwa [toNat_ofNat_of_valid (hvalid n hn)]
  rcases mapCase_cases runs specials c with e | ⟨r, hr, hc, e⟩ | ⟨x, hx, _, e⟩
  · rw [e, List.mem_singleton] at h
    exact Or.inl h
  · rw [e, List.mem_singleton] at h
    subst h
    exact Or.inr (hbrought (List.mem_append_left _
      (List.mem_flatMap.mpr ⟨r, hr, CaseRun.mem_images hc⟩)))
  · rw [e] at h
    obtain ⟨n, hn, rfl⟩ := List.mem_map.mp h
    exact Or.inr (hbrought (List.mem_append_right _ (List.mem_flatMap.mpr ⟨x, hx, hn⟩)))

/-- What stands in the upper case of a character is the character itself, or the tables bring it
    in. -/
theorem mem_upperCase {c d : Char} (h : d ∈ upperCase c) : d = c ∨ d.toNat ∈ upperImages :=
  mem_mapCase upperTable.valid h

/-- **Upper case brings in no separator.** -/
theorem not_isSeparator_of_mem_upperCase {c d : Char} (hc : Name.isSeparator c = false)
    (hd : d ∈ upperCase c) : Name.isSeparator d = false := by
  rcases mem_upperCase hd with rfl | hn
  · exact hc
  · refine Bool.eq_false_iff.mpr fun e => ?_
    exact not_mem_of_land_bits upperTable.images hn (isSeparator_iff.mp e)

end SchemaRecords.Text

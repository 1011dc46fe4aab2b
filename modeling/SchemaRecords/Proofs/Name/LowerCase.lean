import SchemaRecords.Proofs.Name.UpperCase

/-!
# What lower case leaves behind

A character in lower case comes back from upper case, unless its upper case is several characters.
All of it is read off the tables of the case mappings.

* `apart` -- whether numbers are distinct, where those that were met are kept as one number;
* `LowerTable` -- what is read off the tables;
* `mapCase_of_covers` -- where the keys of a case table are distinct, the run that a character lies
  on says what becomes of it;
* `CaseRun.undoneBy` -- a run whose images another run takes back; `lowerCase_restored` -- so
  characters in lower case come back;
* `lowerCase_settled` -- **among the characters that upper case leaves alone, the capital sharp s**
  is the only one whose lower case does not come back;
* `not_isSeparator_of_mem_lowerCase` -- lower case brings in no separator either.
-/

namespace SchemaRecords.Text

/-! ## 1. Distinct numbers -/

/-- Whether the numbers are distinct, and none of them is in the set. -/
def apart (set : Nat) : List Nat → Bool
  | [] => true
  | n :: rest => !set.testBit n && apart (set ||| 1 <<< n) rest

theorem nodup_of_apart {set : Nat} {ns : List Nat} (h : apart set ns = true) :
    ns.Nodup ∧ ∀ n ∈ ns, set.testBit n = false := by
  induction ns generalizing set with
  | nil => exact ⟨List.nodup_nil, nofun⟩
  | cons n rest ih =>
    rw [apart, Bool.and_eq_true, Bool.not_eq_true'] at h
    obtain ⟨hnodup, hset⟩ := ih h.2
    have hrest : ∀ m ∈ rest, set.testBit m = false ∧ n ≠ m := by
      intro m hm
      have hm := hset m hm
      rw [Nat.testBit_or, Nat.one_shiftLeft, Nat.testBit_two_pow, Bool.or_eq_false_iff,
        decide_eq_false_iff_not] at hm
      exact hm
    refine ⟨List.nodup_cons.mpr ⟨fun hn => (hrest n hn).2 rfl, hnodup⟩, ?_⟩
    exact List.forall_mem_cons.mpr ⟨h.1, fun m hm => (hrest m hm).1⟩

/-! ## 2. The tables -/

/-- The numbers that lower case changes. -/
def lowerKeys : List Nat := lowerRuns.flatMap CaseRun.numbers ++ lowerSpecials.map (·.1)

/-- The numbers that a lower case starts with, where it is not the character itself. -/
def lowerHeads : List Nat :=
  lowerRuns.flatMap CaseRun.images ++ lowerSpecials.map fun e => e.2.headD 0

/-- The numbers that a lower case brings in. -/
def lowerImages : List Nat := lowerRuns.flatMap CaseRun.images ++ lowerSpecials.flatMap (·.2)

/-- The characters whose upper case is several characters. -/
def upperSpecialKeys : List Nat := upperSpecials.map (·.1)

/-- Whether another run moves all that a run moves back. -/
def CaseRun.undoneBy (r back : CaseRun) : Bool :=
  back.shift == -r.shift &&
    r.numbers.all fun n => decide (0 ≤ n + r.shift) && back.covers (n + r.shift).toNat

/-- The capital sharp s. -/
def capitalSharp : Char := 'ẞ'

/-- **What is read off the tables of lower and upper case.**

    A run of upper case along characters that some lower case starts with is undone by a run of
    lower case. A run of lower case leads to characters whose upper case is several characters only
    from ones that upper case changes as well, and from the capital sharp s. -/
structure LowerTable : Prop where
  keys : apart 0 lowerKeys = true
  heads : bits lowerHeads &&& bits lowerKeys = 0
  images : bits lowerImages &&& bits separatorNumbers = 0
  valid : ∀ n ∈ lowerImages, n.isValidChar
  undone : ∀ u ∈ upperRuns,
    bits u.numbers &&& bits lowerHeads = 0 ∨ lowerRuns.any u.undoneBy = true
  settled : ∀ r ∈ lowerRuns, bits r.images &&& bits upperSpecialKeys = 0 ∨
    ∀ n ∈ r.numbers, upperCase (Char.ofNat n) ≠ [Char.ofNat n] ∨ n = capitalSharp.toNat
  dotted : upperCase 'i' = ['I'] ∧ lowerCase 'I' = ['i']
  sharp : lowerCase capitalSharp = ['ß'] ∧ upperCase 'ß' = ['S', 'S'] ∧ lowerCase 'S' = ['s']

theorem lowerTable : LowerTable where
  keys := by decide +kernel
  heads := by decide +kernel
  images := by decide +kernel
  valid := by decide +kernel
  undone := by decide +kernel
  settled := by decide +kernel
  dotted := by decide +kernel
  sharp := by decide +kernel

theorem lowerKeys_nodup : lowerKeys.Nodup := (nodup_of_apart lowerTable.keys).1

/-! ## 3. Runs that are undone -/

/-- **Where the keys of a case table are distinct, a character moves with the run it lies on.** -/
theorem mapCase_of_covers {runs : List CaseRun} {specials : List (Nat × List Nat)}
    (hkeys : (runs.flatMap CaseRun.numbers ++ specials.map (·.1)).Nodup) {r : CaseRun}
    (hr : r ∈ runs) {c : Char} (hc : r.covers c.toNat = true) :
    mapCase runs specials c = [Char.ofNat (c.toNat + r.shift).toNat] := by
  obtain ⟨hruns, _, hapart⟩ := List.nodup_append.mp hkeys
  have hkey : c.toNat ∈ runs.flatMap CaseRun.numbers :=
    List.mem_flatMap.mpr ⟨r, hr, CaseRun.mem_numbers hc⟩
  unfold mapCase
  split
  · rename_i image hi
    exact absurd rfl (hapart _ hkey _ (List.mem_map_of_mem (mem_of_lookup hi)))
  · split
    · rename_i other hother
      have hcovers := List.find?_some hother
      have hsame : other = r := by
        by_contra hne
        have : Std.Symm (Function.onFun List.Disjoint CaseRun.numbers) := ⟨fun _ _ h => h.symm⟩
        have hdisjoint := (List.nodup_flatMap.mp hruns).2.forall
          (List.mem_of_find?_eq_some hother) hr hne
        exact hdisjoint (CaseRun.mem_numbers hcovers) (CaseRun.mem_numbers hc)
      rw [hsame]
    · rename_i hnone
      exact absurd hc (List.find?_eq_none.mp hnone r hr)

/-- **What some lower case starts with comes back from upper case**, unless its upper case is several
    characters. -/
theorem lowerCase_restored {c : Char} (hhead : c.toNat ∈ lowerHeads)
    (hspecial : c.toNat ∉ upperSpecialKeys) : ∃ d, upperCase c = [d] ∧ lowerCase d = [c] := by
  rcases mapCase_cases upperRuns upperSpecials c with hsame | ⟨u, hu, hc, hmoved⟩ | ⟨e, he, hc, _⟩
  · refine ⟨c, hsame, mapCase_of_not_mem ?_⟩
    exact not_mem_of_land_bits lowerTable.heads hhead
  · have hmeets : ¬bits u.numbers &&& bits lowerHeads = 0 := fun h =>
      not_mem_of_land_bits h (CaseRun.mem_numbers hc) hhead
    obtain ⟨l, hl, hundone⟩ :=
      List.any_eq_true.mp ((lowerTable.undone u hu).resolve_left hmeets)
    rw [CaseRun.undoneBy, Bool.and_eq_true, beq_iff_eq] at hundone
    obtain ⟨hshift, hmoves⟩ := hundone
    have hmove := List.all_eq_true.mp hmoves _ (CaseRun.mem_numbers hc)
    rw [Bool.and_eq_true, decide_eq_true_eq] at hmove
    obtain ⟨hpositive, hback⟩ := hmove
    have hvalid := upperTable.valid _
      (List.mem_append_left _ (List.mem_flatMap.mpr ⟨u, hu, CaseRun.mem_images hc⟩))
    have hreturn : ((c.toNat + u.shift).toNat + l.shift).toNat = c.toNat := by omega
    rw [← toNat_ofNat_of_valid hvalid] at hback
    refine ⟨_, hmoved, ?_⟩
    rw [lowerCase, mapCase_of_covers lowerKeys_nodup hl hback, toNat_ofNat_of_valid hvalid,
      hreturn, Char.ofNat_toNat]
  · exact absurd (hc ▸ List.mem_map_of_mem he) hspecial

/-! ## 4. Characters in lower case -/

/-- **A character that upper case leaves alone comes back from lower case**, unless it is the capital
    sharp s: what its lower case starts with has one character in upper case, and that has it in
    lower case. -/
theorem lowerCase_settled {c : Char} (hc : upperCase c = [c]) (hne : c ≠ capitalSharp) :
    ∃ d rest e, lowerCase c = d :: rest ∧ upperCase d = [e] ∧ lowerCase e = [d] := by
  rcases mapCase_cases lowerRuns lowerSpecials c with
    hsame | ⟨r, hr, hcovers, hmoved⟩ | ⟨x, hx, _, h⟩
  · exact ⟨c, [], c, hsame, hc, hsame⟩
  · have himage := CaseRun.mem_images hcovers
    have hhead : (c.toNat + r.shift).toNat ∈ lowerHeads :=
      List.mem_append_left _ (List.mem_flatMap.mpr ⟨r, hr, himage⟩)
    have hvalid := lowerTable.valid _
      (List.mem_append_left _ (List.mem_flatMap.mpr ⟨r, hr, himage⟩))
    have hspecial : (c.toNat + r.shift).toNat ∉ upperSpecialKeys := by
      rcases lowerTable.settled r hr with hapart | hsettled
      · exact not_mem_of_land_bits hapart himage
      · rcases hsettled _ (CaseRun.mem_numbers hcovers) with hchanged | hsharp
        · rw [Char.ofNat_toNat] at hchanged
          exact absurd hc hchanged
        · exact absurd (Char.toNat_inj.mp hsharp) hne
    rw [← toNat_ofNat_of_valid hvalid] at hhead hspecial
    obtain ⟨e, hupper, hlower⟩ := lowerCase_restored hhead hspecial
    exact ⟨_, [], e, hmoved, hupper, hlower⟩
  · -- the capital i with a dot, which is the one character whose lower case is several
    obtain rfl := List.mem_singleton.mp hx
    exact ⟨'i', ['\u0307'], 'I', h, lowerTable.dotted⟩

/-- **Lower case brings in no separator.** -/
theorem not_isSeparator_of_mem_lowerCase {c d : Char} (hc : Name.isSeparator c = false)
    (hd : d ∈ lowerCase c) : Name.isSeparator d = false := by
  rcases mem_mapCase lowerTable.valid hd with rfl | hn
  · exact hc
  · refine Bool.eq_false_iff.mpr fun e => ?_
    exact not_mem_of_land_bits lowerTable.images hn (isSeparator_iff.mp e)

end SchemaRecords.Text

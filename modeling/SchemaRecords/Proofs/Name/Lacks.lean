import SchemaRecords.Proofs.Name.Cased

/-!
# Characters that names do not bring in

A name is made of texts by casing, by being composed and by being numbered. Some characters get into
it from nowhere but these texts.

* `Lacks` -- a text without a character;
* `Foreign` -- a character that is in no upper case but its own, is no digit, and stands neither in
  the mark of arrays nor in the name for references without a word;
* `Lacks.pascal`, `Lacks.compose`, `Lacks.withNumber`, `Lacks.ofReference` -- names made of texts
  without a foreign character lack it too.
-/

namespace SchemaRecords.Name

open Text

/-- A text without a character. -/
def Lacks (c : Char) (s : String) : Prop := c ∉ s.toList

instance (c : Char) (s : String) : Decidable (Lacks c s) := inferInstanceAs (Decidable (¬_))

/-- A character that gets into names from the texts alone that they are made of. -/
structure Foreign (c : Char) : Prop where
  upper : c.toNat ∉ upperImages
  digit : c.isDigit = false
  items : Lacks c "Item"
  object : Lacks c "object"

/-- The mark for nothing is foreign, -/
theorem foreign_question : Foreign '?' :=
  ⟨by decide +kernel, by decide, by decide, by decide⟩

/-- and so is the bracket of collections. -/
theorem foreign_bracket : Foreign '<' :=
  ⟨by decide +kernel, by decide, by decide, by decide⟩

variable {c : Char} {s t : String}

theorem lacks_append : Lacks c (s ++ t) ↔ Lacks c s ∧ Lacks c t := by
  rw [Lacks, String.toList_append, List.mem_append, not_or]
  exact Iff.rfl

theorem mem_of_mem_capitalize (hc : Foreign c) {l : List Char} {fresh : Bool}
    (h : c ∈ capitalize fresh l) : c ∈ l := by
  induction l generalizing fresh with
  | nil => cases h
  | cons d rest ih =>
    unfold capitalize at h
    split at h
    · exact List.mem_cons_of_mem d (ih h)
    · rcases List.mem_append.mp h with h | h
      · have hd : d = c := by
          split at h
          · exact ((mem_upperCase h).resolve_right hc.upper).symm
          · exact (List.mem_singleton.mp h).symm
        rw [hd]
        exact List.mem_cons_self
      · exact List.mem_cons_of_mem d (ih h)

/-- **Casing brings in no foreign character.** -/
theorem Lacks.pascal (h : Lacks c s) (hc : Foreign c) : Lacks c (pascal s) := by
  rw [Lacks, toList_pascal]
  exact fun hmem => h (mem_of_mem_capitalize hc hmem)

theorem lacks_items (hc : Foreign c) (depth : Nat) : Lacks c (items depth) := by
  induction depth with
  | zero => exact List.not_mem_nil
  | succ depth ih => exact lacks_append.mpr ⟨hc.items, ih⟩

theorem Lacks.compose {record key : String} (hrecord : Lacks c record) (hkey : Lacks c key)
    (hc : Foreign c) (depth : Nat) : Lacks c (compose record key depth) :=
  lacks_append.mpr ⟨lacks_append.mpr ⟨hrecord, hkey.pascal hc⟩, lacks_items hc depth⟩

theorem Lacks.withNumber (h : Lacks c s) (hc : Foreign c) (k : Nat) : Lacks c (withNumber s k) := by
  refine lacks_append.mpr ⟨h, fun hmem => ?_⟩
  have hdigit := isDigit_of_mem_toString hmem
  rw [hc.digit] at hdigit
  cases hdigit

theorem Lacks.ofReference (h : Lacks c s) (hc : Foreign c) : Lacks c (ofReference s) := by
  have hlast : Lacks c (String.ofList (lastSegment s.toList)) := by
    rw [Lacks, String.toList_ofList]
    intro hmem
    refine h (List.mem_reverse.mp ?_)
    exact List.takeWhile_prefix _ |>.subset (List.mem_reverse.mp hmem)
  unfold Name.ofReference
  dsimp only
  split
  · exact hc.object
  · exact hlast.pascal hc

end SchemaRecords.Name

import SchemaRecords.Proofs.Name.Cased
import SchemaRecords.Proofs.Name.Claims

/-!
# How names are numbered

Under the policy that numbers, a name that is asked for again gets the number of the request.

* `stem` -- a name without the digits it ends in; a name and its numbered forms have one stem;
* `numberedForm` -- the forms of a name: the name, then with the numbers from two on;
* `HoldsForms` -- the names of one stem in a scope are the first forms of a name. A claim of that
  name takes the next form (`HoldsForms.claim`), and claims of names with other stems leave the
  forms alone (`HoldsForms.claim_other`);
* `Claims.forms` -- so requests for a name are answered with its forms, one after the other, where
  no other name asked for has its stem;
* `Claims.keeps` -- and a name whose stem no other request has is answered as it is; `Numbering` is
  both.
-/

namespace SchemaRecords.Name

/-! ## 1. Stems -/

/-- A name without the digits it ends in. -/
def stem (name : String) : String := String.ofList (name.toList.rdropWhile Char.isDigit)

/-- A number is none of the stem. -/
@[simp] theorem stem_withNumber (name : String) (k : Nat) :
    stem (withNumber name k) = stem name := by
  have hdigits : ∀ c ∈ (toString k).toList.reverse, c.isDigit = true := fun c hc =>
    isDigit_of_mem_toString (List.mem_reverse.mp hc)
  rw [stem, withNumber, String.toList_append, List.rdropWhile, List.reverse_append,
    List.dropWhile_append_of_pos hdigits]
  rfl

/-- A claim does not change the stem. -/
theorem stem_of_claim {scope scope' : Scope} {name claimed : String}
    (h : (scope.claim name).result = .ok (claimed, scope')) : stem claimed = stem name := by
  obtain ⟨_, _, rfl | ⟨_, k, rfl⟩⟩ := Scope.claim_ok h
  · rfl
  · exact stem_withNumber name k

/-! ## 2. The forms of a name -/

/-- The forms of a name, counted from nought: the name, then with the numbers from two on. -/
def numberedForm (name : String) : Nat → String
  | 0 => name
  | i + 1 => withNumber name (i + 2)

/-- The first forms of a name. -/
def numberedForms (name : String) (count : Nat) : List String :=
  (List.range count).map (numberedForm name)

@[simp] theorem stem_numberedForm (name : String) (i : Nat) :
    stem (numberedForm name i) = stem name := by
  cases i with
  | zero => rfl
  | succ i => exact stem_withNumber name (i + 2)

theorem withNumber_ne (name : String) (k : Nat) : withNumber name k ≠ name := by
  intro h
  simp [withNumber] at h

/-- No two forms of a name are the same. -/
theorem numberedForm_injective (name : String) : Function.Injective (numberedForm name) := by
  intro i j h
  cases i with
  | zero =>
    cases j with
    | zero => rfl
    | succ j => exact absurd h.symm (withNumber_ne name (j + 2))
  | succ i =>
    cases j with
    | zero => exact absurd h (withNumber_ne name (i + 2))
    | succ j =>
      have hnumber : i + 2 = j + 2 := withNumber_injective name h
      omega

/-! ## 3. The forms in a scope -/

/-- **Of the names of one stem, the first forms of a name** are in use, and no others. -/
def HoldsForms (name : String) (count : Nat) (taken : List String) : Prop :=
  ∀ other, stem other = stem name → (other ∈ taken ↔ ∃ i < count, other = numberedForm name i)

theorem holdsForms_nil (name : String) : HoldsForms name 0 [] := by
  intro other _
  simp

section claim

variable {scope scope' : Scope} {name claimed : String} {count : Nat}

/-- The form that is in use is one of the first. -/
theorem HoldsForms.mem_iff {taken : List String} (h : HoldsForms name count taken) (i : Nat) :
    numberedForm name i ∈ taken ↔ i < count := by
  rw [h _ (stem_numberedForm name i)]
  constructor
  · rintro ⟨j, hj, e⟩
    exact numberedForm_injective name e ▸ hj
  · exact fun hi => ⟨i, hi, rfl⟩

/-- With the next form taken, one more is in use. -/
theorem HoldsForms.cons {taken : List String} (h : HoldsForms name count taken) :
    HoldsForms name (count + 1) (numberedForm name count :: taken) := by
  intro other hstem
  rw [List.mem_cons, h other hstem]
  constructor
  · rintro (rfl | ⟨i, hi, rfl⟩)
    · exact ⟨count, Nat.lt_succ_self count, rfl⟩
    · exact ⟨i, Nat.lt_succ_of_lt hi, rfl⟩
  · rintro ⟨i, hi, rfl⟩
    by_cases hlast : i = count
    · exact Or.inl (congrArg (numberedForm name) hlast)
    · exact Or.inr ⟨i, by omega, rfl⟩

/-- **A claim of the name takes the next form.** -/
theorem HoldsForms.claim (h : HoldsForms name count scope.taken) (hp : scope.policy = .number)
    (hclaim : (scope.claim name).result = .ok (claimed, scope')) :
    claimed = numberedForm name count ∧ HoldsForms name (count + 1) scope'.taken := by
  have hanswer : claimed = numberedForm name count := by
    unfold Scope.claim at hclaim
    by_cases ht : name ∈ scope.taken
    · have hfirst : 0 < count := (h.mem_iff 0).mp ht
      obtain ⟨k, htwo, hnumbered, hfree, hbefore⟩ := numbered_least ht
      rw [if_pos ht, hp, hnumbered] at hclaim
      cases hclaim
      -- the number is two more than the place among the numbered forms, so all forms before are
      -- in use and the one itself is not
      have hform : withNumber name k = numberedForm name (k - 1) := by
        obtain ⟨i, rfl⟩ : ∃ i, k = i + 2 := ⟨k - 2, by omega⟩
        rfl
      have hge : ¬k - 1 < count := fun hless => hfree (hform ▸ (h.mem_iff (k - 1)).mpr hless)
      have hle : ¬count < k - 1 := by
        intro hless
        have hused := hbefore (count + 1) (by omega) (by omega)
        have hnext : withNumber name (count + 1) = numberedForm name count := by
          obtain ⟨i, rfl⟩ : ∃ i, count = i + 1 := ⟨count - 1, by omega⟩
          rfl
        rw [hnext, h.mem_iff] at hused
        omega
      rw [hform, show k - 1 = count by omega]
    · have hnone : count = 0 := by
        by_contra hne
        exact ht ((h.mem_iff 0).mpr (Nat.pos_of_ne_zero hne))
      rw [if_neg ht] at hclaim
      cases hclaim
      rw [hnone]
      rfl
  obtain ⟨_, rfl, _⟩ := Scope.claim_ok hclaim
  rw [hanswer]
  exact ⟨rfl, h.cons⟩

/-- A claim of a name with another stem leaves the forms alone. -/
theorem HoldsForms.claim_other {other : String} (h : HoldsForms name count scope.taken)
    (hother : stem other ≠ stem name)
    (hclaim : (scope.claim other).result = .ok (claimed, scope')) :
    HoldsForms name count scope'.taken := by
  have hstem := stem_of_claim hclaim
  obtain ⟨_, rfl, _⟩ := Scope.claim_ok hclaim
  intro x hx
  have hne : x ≠ claimed := fun e => hother (by rw [← hstem, ← e, hx])
  rw [Scope.taken_take, List.mem_cons, or_iff_right hne]
  exact h x hx

end claim

/-! ## 4. Claims one after the other -/

/-- The answers to the requests for a name, in their order. -/
def answersTo (name : String) (asked answers : List String) : List String :=
  ((asked.zip answers).filter fun request => request.1 == name).map (·.2)

namespace Claims

variable {scope scope' : Scope} {asked answers : List String} {name : String}

/-- Claims answer a name with its forms from the first one that is not in use on. -/
theorem forms_from (h : Claims scope asked answers scope') (hp : scope.policy = .number)
    (hstems : ∀ other ∈ asked, other ≠ name → stem other ≠ stem name) {count : Nat}
    (hforms : HoldsForms name count scope.taken) :
    answersTo name asked answers =
      (List.range' count (asked.count name)).map (numberedForm name) := by
  induction h generalizing count with
  | nil scope => rfl
  | @cons scope scope' scope'' first claimed asked answers hfirst _ ih =>
    have hp' : scope'.policy = .number := by
      obtain ⟨_, rfl, _⟩ := Scope.claim_ok hfirst
      exact hp
    obtain ⟨hstem, hstems'⟩ := List.forall_mem_cons.mp hstems
    by_cases hname : first = name
    · subst hname
      obtain ⟨hanswer, hforms'⟩ := hforms.claim hp hfirst
      have hrest := ih hp' hstems' hforms'
      rw [List.count_cons_self, List.range'_succ, List.map_cons, ← hrest, ← hanswer]
      simp [answersTo]
    · have hrest := ih hp' hstems' (hforms.claim_other (hstem hname) hfirst)
      rw [List.count_cons_of_ne hname, ← hrest]
      simp [answersTo, hname]

/-- **Requests for a name are answered with its forms**, one after the other, where no other name
    asked for has its stem. -/
theorem forms (h : Claims (.new .number none) asked answers scope')
    (hstems : ∀ other ∈ asked, other ≠ name → stem other ≠ stem name) :
    answersTo name asked answers = numberedForms name (asked.count name) := by
  rw [h.forms_from rfl hstems (holdsForms_nil name), numberedForms, List.range_eq_range']

/-- The names in use after claims have stems that were in use before, or were asked for. -/
theorem stem_taken (h : Claims scope asked answers scope') {other : String}
    (hother : other ∈ scope'.taken) :
    other ∈ scope.taken ∨ ∃ name ∈ asked, stem other = stem name := by
  induction h with
  | nil scope => exact Or.inl hother
  | cons hfirst _ ih =>
    rcases ih hother with hother | ⟨name, hname, hstem⟩
    · have hstem := stem_of_claim hfirst
      obtain ⟨_, rfl, _⟩ := Scope.claim_ok hfirst
      rcases List.mem_cons.mp hother with rfl | hother
      · exact Or.inr ⟨_, List.mem_cons_self, hstem⟩
      · exact Or.inl hother
    · exact Or.inr ⟨name, List.mem_cons_of_mem _ hname, hstem⟩

/-- **A name whose stem no other request has is answered as it is.** -/
theorem keeps (h : Claims (.new .number none) asked answers scope') {i : Nat}
    (hname : asked[i]? = some name)
    (hstems : ∀ (j : Nat) (other : String), asked[j]? = some other → j ≠ i →
      stem other ≠ stem name) : answers[i]? = some name := by
  obtain ⟨hi, hget⟩ := List.getElem?_eq_some_iff.mp hname
  have hasked : asked = asked.take i ++ name :: asked.drop (i + 1) := by
    rw [← hget, ← List.drop_eq_getElem_cons hi, List.take_append_drop]
  rw [hasked] at h
  obtain ⟨earlier, later, before, rfl, hearlier, hlater⟩ := h.split
  have hlength : earlier.length = i := by
    rw [hearlier.length_eq, List.length_take]
    omega
  have hfree : name ∉ before.taken := by
    intro hused
    rcases hearlier.stem_taken hused with hmem | ⟨other, hother, hstem⟩
    · exact absurd hmem List.not_mem_nil
    · obtain ⟨j, hj, e⟩ := List.mem_take_iff_getElem.mp hother
      refine hstems j other (List.getElem?_eq_some_iff.mpr ⟨by omega, e⟩) (by omega) hstem.symm
  cases hlater with
  | cons hfirst _ =>
    rw [Scope.claim_free hfree] at hfirst
    cases hfirst
    rw [List.getElem?_append_right (by omega), hlength, Nat.sub_self]
    rfl

end Claims

/-- **How names are answered where they get numbers**: the requests for a name with its forms, where
    no other name asked for has its stem, and a name whose stem no other request has as it is. -/
structure Numbering (asked answers : List String) : Prop where
  forms : ∀ name, (∀ other ∈ asked, other ≠ name → stem other ≠ stem name) →
    answersTo name asked answers = numberedForms name (asked.count name)
  keeps : ∀ (i : Nat) (name : String), asked[i]? = some name →
    (∀ (j : Nat) (other : String), asked[j]? = some other → j ≠ i → stem other ≠ stem name) →
      answers[i]? = some name

/-- **Claims in a scope that numbers are answered so.** -/
theorem Claims.numbering {asked answers : List String} {scope : Scope}
    (h : Claims (.new .number none) asked answers scope) : Numbering asked answers where
  forms := fun _ hstems => h.forms hstems
  keeps := fun _ _ hname hstems => h.keeps hname hstems

end SchemaRecords.Name

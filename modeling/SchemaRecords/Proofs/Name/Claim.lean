import Mathlib
import SchemaRecords.Name.Scope

/-!
# What a claim answers

* `numbered_least` -- the search for a numbered name ends at the first one that is not taken: its
  candidates are distinct, and one more than there are taken names;
* `Scope.claim_ok` -- all that a claim which answers can do, under both policies;
* `Scope.claim_refuse` -- a claim under the policy that refuses, in closed form.
-/

namespace SchemaRecords.Name

/-! ## 1. Numbered names -/

theorem withNumber_injective (name : String) : Function.Injective (withNumber name) := by
  intro j k h
  have e : toString j = toString k := String.append_right_inj name |>.mp h
  exact Nat.repr_injective e

/-- The candidates for a name among the taken ones. -/
def candidates (name : String) (taken : List String) : List String :=
  (List.range (taken.length + 1)).map fun i => withNumber name (i + 2)

theorem candidates_nodup (name : String) (taken : List String) :
    (candidates name taken).Nodup := by
  refine List.Nodup.map (fun i j h => ?_) List.nodup_range
  have e := withNumber_injective name h
  omega

theorem exists_candidate_not_mem (name : String) (taken : List String) :
    ∃ c ∈ candidates name taken, c ∉ taken := by
  by_contra hall
  push Not at hall
  have hle := (candidates_nodup name taken).length_le_of_subset hall
  simp only [candidates, List.length_map, List.length_range] at hle
  omega

/-- **The search for a numbered name comes to the first one that is free.** -/
theorem numbered_least {name : String} {taken : List String} (h : name ∈ taken) :
    ∃ k, 2 ≤ k ∧ numbered name taken = withNumber name k ∧ withNumber name k ∉ taken ∧
      ∀ j, 2 ≤ j → j < k → withNumber name j ∈ taken := by
  obtain ⟨c, hc, hfree⟩ := exists_candidate_not_mem name taken
  have hsome : ((candidates name taken).find? (· ∉ taken)).isSome = true :=
    List.find?_isSome.mpr ⟨c, hc, by simpa using hfree⟩
  obtain ⟨found, hfound⟩ := Option.isSome_iff_exists.mp hsome
  have hnumbered : numbered name taken = found := by
    unfold numbered
    rw [if_pos h]
    show ((candidates name taken).find? (· ∉ taken)).getD name = found
    rw [hfound]
    rfl
  rw [candidates, List.find?_map, Option.map_eq_some_iff] at hfound
  obtain ⟨i, hi, rfl⟩ := hfound
  obtain ⟨hlast, _, hbefore⟩ := List.find?_range_eq_some.mp hi
  refine ⟨i + 2, Nat.le_add_left 2 i, hnumbered, by simpa using hlast, fun j htwo hless => ?_⟩
  have hj := hbefore (j - 2) (by omega)
  simp only [Function.comp_apply, Nat.sub_add_cancel htwo] at hj
  simpa using hj

/-- The search for a numbered name comes to one that is free. -/
theorem numbered_spec {name : String} {taken : List String} (h : name ∈ taken) :
    ∃ k, numbered name taken = withNumber name k ∧ withNumber name k ∉ taken := by
  obtain ⟨k, _, hnumbered, hfree, _⟩ := numbered_least h
  exact ⟨k, hnumbered, hfree⟩

theorem numbered_not_mem (name : String) (taken : List String) : numbered name taken ∉ taken := by
  by_cases h : name ∈ taken
  · obtain ⟨k, e, hk⟩ := numbered_spec h
    exact e ▸ hk
  · simp [numbered, h]

/-! ## 2. Claims -/

namespace Scope

variable {s s' : Scope} {name claimed : String}

/-- **What a claim that answers has done**: it took a free name into use, and that name is the one
    asked for or, under the policy that numbers, a numbered form of it. -/
theorem claim_ok (h : (s.claim name).result = .ok (claimed, s')) :
    claimed ∉ s.taken ∧ s' = s.take claimed ∧
      (claimed = name ∨ s.policy = .number ∧ ∃ k, claimed = withNumber name k) := by
  unfold claim at h
  split at h
  · rename_i ht
    cases hp : s.policy with
    | refuse =>
      rw [hp] at h
      cases h
    | number =>
      rw [hp] at h
      simp only [Except.ok.injEq, Prod.mk.injEq] at h
      obtain ⟨rfl, rfl⟩ := h
      obtain ⟨k, e, _⟩ := numbered_spec ht
      exact ⟨numbered_not_mem name s.taken, rfl, Or.inr ⟨rfl, k, e⟩⟩
  · rename_i ht
    cases h
    exact ⟨ht, rfl, Or.inl rfl⟩

/-- A claim under the policy that refuses, in closed form. -/
theorem claim_refuse (hp : s.policy = .refuse) (name : String) :
    (s.claim name).result =
      if name ∈ s.taken then .error (s.clash name) else .ok (name, s.take name) := by
  unfold claim
  split
  · rw [hp]
    rfl
  · rfl

@[simp] theorem policy_take (s : Scope) (name : String) : (s.take name).policy = s.policy := rfl

@[simp] theorem taken_take (s : Scope) (name : String) :
    (s.take name).taken = name :: s.taken := rfl

/-- Under the policy that refuses, the name asked for is the one that is answered. -/
theorem eq_of_claim_refuse (hp : s.policy = .refuse)
    (h : (s.claim name).result = .ok (claimed, s')) : claimed = name := by
  obtain ⟨_, _, e | ⟨hn, _⟩⟩ := claim_ok h
  · exact e
  · rw [hp] at hn
    cases hn

end Scope

end SchemaRecords.Name

import SchemaRecords.Proofs.Name.Claim

/-!
# A scope through all its claims

Names are asked for in a scope one after the other, and a claim that is refused does not end that:
it answers no scope, so the next claim meets the one before it.

* `CountsTo` -- the search for a numbered name as a count without a bound; it stops at the least
  number that is free (`CountsTo.least`), and it does end: the bounded search comes to the number
  that the count comes to (`numbered_countsTo`);
* `History` -- a scope with the names it has answered; `History.ask` is one claim,
  `History.after` the claims of a list of names;
* `History.Sound` -- **the invariant**: in use are the owner and the names answered, all distinct.
  One claim keeps it (`Sound.ask`), whatever becomes of the claim, so it holds after any claims
  (`sound_after`);
* `claim_after` -- and what the next claim does then, for every name and under both policies.
-/

namespace SchemaRecords.Name

/-! ## 1. Counting without a bound -/

/-- **The count for a name**, from a number on: it stops at the first number that is free. -/
inductive CountsTo (name : String) (taken : List String) : Nat → Nat → Prop
  | free {k : Nat} (h : withNumber name k ∉ taken) : CountsTo name taken k k
  | next {k last : Nat} (h : withNumber name k ∈ taken) (later : CountsTo name taken (k + 1) last) :
      CountsTo name taken k last

variable {name : String} {taken : List String} {k last : Nat}

/-- The count stops at the least number that is free. -/
theorem CountsTo.least (h : CountsTo name taken k last) :
    k ≤ last ∧ withNumber name last ∉ taken ∧
      ∀ j, k ≤ j → j < last → withNumber name j ∈ taken := by
  induction h with
  | free h => exact ⟨le_refl _, h, fun j hle hlt => absurd hlt (Nat.not_lt.mpr hle)⟩
  | @next k last h _ ih =>
    obtain ⟨hle, hfree, hbefore⟩ := ih
    refine ⟨Nat.le_of_succ_le hle, hfree, fun j hkj hlt => ?_⟩
    rcases Nat.eq_or_lt_of_le hkj with rfl | hlater
    · exact h
    · exact hbefore j hlater hlt

/-- The count comes as far as the numbers are taken. -/
theorem CountsTo.of_least (hle : k ≤ last) (hfree : withNumber name last ∉ taken)
    (hbefore : ∀ j, k ≤ j → j < last → withNumber name j ∈ taken) :
    CountsTo name taken k last := by
  obtain ⟨d, rfl⟩ := Nat.exists_eq_add_of_le hle
  induction d generalizing k with
  | zero => exact .free hfree
  | succ d ih =>
    have hlast : k + (d + 1) = k + 1 + d := by omega
    rw [hlast] at hfree hbefore ⊢
    refine .next (hbefore k (le_refl k) (by omega)) (ih (Nat.le_add_right _ d) hfree ?_)
    exact fun j hkj => hbefore j (Nat.le_of_succ_le hkj)

/-- **The bounded search comes to the number that the count comes to**, and so the count ends. -/
theorem numbered_countsTo (h : name ∈ taken) :
    ∃ last, CountsTo name taken 2 last ∧ numbered name taken = withNumber name last := by
  obtain ⟨last, hle, hnumbered, hfree, hbefore⟩ := numbered_least h
  exact ⟨last, .of_least hle hfree hbefore, hnumbered⟩

/-- A claim of a taken name under the policy that numbers, in closed form. -/
theorem Scope.claim_number {s : Scope} (hp : s.policy = .number) (h : name ∈ s.taken) :
    ∃ last, CountsTo name s.taken 2 last ∧
      s.claim name = ⟨[s.renamed name (withNumber name last)],
        .ok (withNumber name last, s.take (withNumber name last))⟩ := by
  obtain ⟨last, hcount, hnumbered⟩ := numbered_countsTo h
  refine ⟨last, hcount, ?_⟩
  rw [Scope.claim, if_pos h, hp]
  simp only [hnumbered]

/-! ## 2. One claim after the other -/

/-- A scope, and the names it has answered. -/
structure History where
  scope : Scope
  answers : List String
  deriving DecidableEq, Repr

namespace History

/-- A claim. Where it is refused there is no answer, and the scope is the one before. -/
def ask (h : History) (name : String) : History :=
  match (h.scope.claim name).result with
  | .ok (claimed, scope) => ⟨scope, h.answers ++ [claimed]⟩
  | .error _ => h

/-- What the claims of a list of names come to, in a scope that is new. -/
def after (policy : Policy) (owner : Option String) (asked : List String) : History :=
  asked.foldl ask ⟨.new policy owner, []⟩

theorem after_concat (policy : Policy) (owner : Option String) (asked : List String)
    (name : String) : after policy owner (asked ++ [name]) = (after policy owner asked).ask name :=
  List.foldl_concat ..

/-- **What every claim keeps**: in use are the owner and the names answered, all distinct. -/
structure Sound (policy : Policy) (owner : Option String) (h : History) : Prop where
  policy_eq : h.scope.policy = policy
  owner_eq : h.scope.owner = owner
  taken_eq : h.scope.taken = h.answers.reverse ++ owner.toList
  nodup : (owner.toList ++ h.answers).Nodup

namespace Sound

variable {policy : Policy} {owner : Option String} {h : History}

theorem new (policy : Policy) (owner : Option String) :
    Sound policy owner ⟨.new policy owner, []⟩ where
  policy_eq := rfl
  owner_eq := rfl
  taken_eq := rfl
  nodup := by cases owner <;> simp

theorem mem_taken (hs : Sound policy owner h) (name : String) :
    name ∈ h.scope.taken ↔ owner = some name ∨ name ∈ h.answers := by
  rw [hs.taken_eq, List.mem_append, List.mem_reverse, Option.mem_toList, or_comm]

/-- **One claim keeps the invariant**, whether it is answered or refused. -/
theorem ask (hs : Sound policy owner h) (name : String) : Sound policy owner (h.ask name) := by
  unfold History.ask
  split
  next claimed scope hclaim =>
    obtain ⟨hfree, rfl, _⟩ := Scope.claim_ok hclaim
    rw [hs.mem_taken, not_or] at hfree
    refine ⟨hs.policy_eq, hs.owner_eq, ?_, ?_⟩
    · show claimed :: h.scope.taken = (h.answers ++ [claimed]).reverse ++ owner.toList
      rw [hs.taken_eq, List.reverse_append]
      rfl
    · have hnew : claimed ∉ owner.toList ++ h.answers := by
        rw [List.mem_append, Option.mem_toList]
        exact not_or.mpr hfree
      rw [← List.append_assoc]
      exact List.nodup_append.mpr ⟨hs.nodup, List.nodup_singleton claimed, fun a ha b hb e =>
        hnew (List.mem_singleton.mp hb ▸ e ▸ ha)⟩
  next => exact hs

end Sound

/-- **The invariant holds after any claims**, answered and refused ones in any order. -/
theorem sound_after (policy : Policy) (owner : Option String) (asked : List String) :
    Sound policy owner (after policy owner asked) := by
  induction asked using List.reverseRecOn with
  | nil => exact .new policy owner
  | append_singleton asked name ih =>
    rw [after_concat]
    exact ih.ask name

/-! ## 3. The next claim -/

theorem isWarning_renamed (s : Scope) (name newName : String) :
    (s.renamed name newName).isWarning = true := by
  unfold Scope.renamed
  split <;> rfl

/-- **What a scope is after any claims, and what the next claim does.** In use are the owner and the
    names answered so far, and all of these are distinct. A free name is answered as it is, without
    a notice. A taken one is refused under the one policy, and nothing is changed; under the other
    the count from two on ends, and the answer is the name with the least number that is free, with
    a warning. -/
theorem claim_after (policy : Policy) (owner : Option String) (asked : List String)
    (name : String) :
    let h := after policy owner asked
    let s := h.scope
    (∀ used, used ∈ s.taken ↔ owner = some used ∨ used ∈ h.answers) ∧
      (owner.toList ++ h.answers).Nodup ∧
      (name ∉ s.taken →
        s.claim name = ⟨[], .ok (name, s.take name)⟩ ∧
          after policy owner (asked ++ [name]) = ⟨s.take name, h.answers ++ [name]⟩) ∧
      (name ∈ s.taken → policy = .refuse →
        s.claim name = ⟨[], .error (s.clash name)⟩ ∧ after policy owner (asked ++ [name]) = h) ∧
      (name ∈ s.taken → policy = .number →
        ∃ last, CountsTo name s.taken 2 last ∧ 2 ≤ last ∧ withNumber name last ∉ s.taken ∧
          (∀ j, 2 ≤ j → j < last → withNumber name j ∈ s.taken) ∧
          (s.renamed name (withNumber name last)).isWarning = true ∧
          s.claim name = ⟨[s.renamed name (withNumber name last)],
            .ok (withNumber name last, s.take (withNumber name last))⟩ ∧
          after policy owner (asked ++ [name]) =
            ⟨s.take (withNumber name last), h.answers ++ [withNumber name last]⟩) := by
  intro h s
  have hs : Sound policy owner h := sound_after policy owner asked
  refine ⟨hs.mem_taken, hs.nodup, fun hfree => ?_, fun htaken hrefuse => ?_,
    fun htaken hnumber => ?_⟩
  · have hclaim := Scope.claim_free hfree
    refine ⟨hclaim, ?_⟩
    rw [after_concat, ask, hclaim]
    rfl
  · have hclaim : s.claim name = ⟨[], .error (s.clash name)⟩ := by
      rw [Scope.claim, if_pos htaken, hs.policy_eq.trans hrefuse]
      rfl
    refine ⟨hclaim, ?_⟩
    rw [after_concat, ask, hclaim]
  · obtain ⟨last, hcount, hclaim⟩ := Scope.claim_number (hs.policy_eq.trans hnumber) htaken
    obtain ⟨hle, hfree, hbefore⟩ := hcount.least
    refine ⟨last, hcount, hle, hfree, hbefore, isWarning_renamed s name _, hclaim, ?_⟩
    rw [after_concat, ask, hclaim]

/-- A refused name leaves the scope as it was; a number is passed over where a name with it was
    asked for before. -/
theorem claim_after_passes_over :
    after .refuse (some "Order") ["Id", "Order"] = after .refuse (some "Order") ["Id"] ∧
      (after .number (some "Order") ["Order3", "Order"]).answers = ["Order3", "Order2"] ∧
      (after .number (some "Order") ["Order3", "Order", "Order"]).answers =
        ["Order3", "Order2", "Order4"] := by
  have hrefuse := (claim_after .refuse (some "Order") ["Id"] "Order").2.2.2.1
  have hnumber := (claim_after .number (some "Order") ["Order3", "Order"] "Order").2.2.2.2
  obtain ⟨_, hsame⟩ := hrefuse (by decide) rfl
  obtain ⟨last, _, htwo, hfree, hbefore, _, _, hafter⟩ := hnumber (by decide) rfl
  have hsecond : (after .number (some "Order") ["Order3", "Order"]).answers =
      ["Order3", "Order2"] := by decide
  have hlast : last = 4 := by
    have hless : last ≤ 4 := by
      by_contra hmore
      exact absurd (hbefore 4 (by decide) (Nat.lt_of_not_le hmore)) (by decide +kernel)
    interval_cases last
    · exact absurd (by decide +kernel) hfree
    · exact absurd (by decide) hfree
    · rfl
  refine ⟨hsame, hsecond, ?_⟩
  rw [show ["Order3", "Order", "Order"] = ["Order3", "Order"] ++ ["Order"] from rfl, hafter,
    hsecond, hlast]
  decide

end History

end SchemaRecords.Name

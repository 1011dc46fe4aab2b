import SchemaRecords.Proofs.Name.Claim

/-!
# Claims one after the other

* `Claims` -- the names that are asked for in a scope, one after the other, and the answers;
* `Claims.append`, `Claims.split` -- claims after claims are claims, and claims of names after
  others come apart again;
* `Claims.taken_eq` -- the scope holds the answers, behind what it held before; every name asked for
  is in use then (`Claims.mem_taken`), and every answer is one to it (`Claims.answers_of_mem`).
-/

namespace SchemaRecords.Name

/-- **Claims that are answered**, one after the other: the scope before them, the names asked for,
    the names answered, and the scope after them. -/
inductive Claims : Scope → List String → List String → Scope → Prop
  | nil (scope : Scope) : Claims scope [] [] scope
  | cons {scope scope' scope'' : Scope} {name claimed : String} {asked answers : List String}
      (first : (scope.claim name).result = .ok (claimed, scope'))
      (rest : Claims scope' asked answers scope'') :
      Claims scope (name :: asked) (claimed :: answers) scope''

namespace Claims

variable {scope scope' scope'' : Scope} {asked answers more moreAnswers : List String}
  {name claimed : String}

theorem append (h : Claims scope asked answers scope')
    (h' : Claims scope' more moreAnswers scope'') :
    Claims scope (asked ++ more) (answers ++ moreAnswers) scope'' := by
  induction h with
  | nil scope => exact h'
  | cons first _ ih => exact .cons first (ih h')

/-- Claims of names after others come apart. -/
theorem split (h : Claims scope (asked ++ more) answers scope'') :
    ∃ earlier later scope', answers = earlier ++ later ∧ Claims scope asked earlier scope' ∧
      Claims scope' more later scope'' := by
  induction asked generalizing scope answers with
  | nil => exact ⟨[], answers, scope, rfl, .nil scope, h⟩
  | cons name asked ih =>
    cases h with
    | cons first rest =>
      obtain ⟨earlier, later, scope', rfl, hearlier, hlater⟩ := ih rest
      exact ⟨_ :: earlier, later, scope', rfl, .cons first hearlier, hlater⟩

theorem length_eq (h : Claims scope asked answers scope') : answers.length = asked.length := by
  induction h with
  | nil scope => rfl
  | cons _ _ ih => rw [List.length_cons, List.length_cons, ih]

/-- **The scope holds the answers**, behind what it held before. -/
theorem taken_eq (h : Claims scope asked answers scope') :
    scope'.taken = answers.reverse ++ scope.taken := by
  induction h with
  | nil scope => rfl
  | cons first _ ih =>
    obtain ⟨_, rfl, _⟩ := Scope.claim_ok first
    rw [ih, Scope.taken_take, List.reverse_cons, List.append_assoc]
    rfl

/-- **Every name asked for is in use then**: it was free and is taken, or it was taken before. -/
theorem mem_taken (h : Claims scope asked answers scope') (hname : name ∈ asked) :
    name ∈ scope'.taken := by
  induction h with
  | nil scope => exact absurd hname List.not_mem_nil
  | @cons scope scope' scope'' first claimed asked answers hfirst hrest ih =>
    obtain hname | hname := List.mem_cons.mp hname
    · have hused : name ∈ scope'.taken := by
        by_cases ht : name ∈ scope.taken
        · obtain ⟨_, rfl, _⟩ := Scope.claim_ok hfirst
          exact List.mem_cons_of_mem claimed ht
        · rw [← hname, Scope.claim_free ht] at hfirst
          cases hfirst
          exact List.mem_cons_self
      rw [hrest.taken_eq]
      exact List.mem_append_right _ hused
    · exact ih hname

/-- An answer is the name asked for, or a numbered form of it. -/
theorem answers_of_mem (h : Claims scope asked answers scope') (hclaimed : claimed ∈ answers) :
    ∃ name ∈ asked, claimed = name ∨ ∃ k, claimed = withNumber name k := by
  induction h with
  | nil scope => exact absurd hclaimed List.not_mem_nil
  | cons hfirst _ ih =>
    rcases List.mem_cons.mp hclaimed with rfl | hclaimed
    · obtain ⟨_, _, hanswer⟩ := Scope.claim_ok hfirst
      exact ⟨_, List.mem_cons_self, hanswer.imp_right And.right⟩
    · obtain ⟨name, hname, hanswer⟩ := ih hclaimed
      exact ⟨name, List.mem_cons_of_mem _ hname, hanswer⟩

end Claims

end SchemaRecords.Name

import SchemaRecords.Proofs.Record.Walk
import SchemaRecords.Proofs.TypeName

/-!
# The name a record asks for

* `Worded` -- properties under which every title has a word; what is under them is of this kind
  too;
* `targetName_eq` -- the name a record asks for is its title, or else the enclosing name with the
  key and the arrays behind it;
* `cased_targetName` -- under an enclosing name with a word it is a cased name.
-/

namespace SchemaRecords.Record

open Name Schema

/-! ## 1. Titles with words -/

/-- Properties under which every title has a word. -/
def Worded (ps : List (String × Schema)) : Prop := ∀ title ∈ titlesIn ps, hasWord title = true

theorem worded_properties {s : Schema} (h : ∀ title ∈ s.titles, hasWord title = true) :
    Worded s.properties := fun title ht => h title (mem_titles_of_mem_titlesIn ht)

section Worded

variable {key : String} {s r : Schema} {depth : Nat} {rest : List (String × Schema)}

theorem Worded.tail (h : Worded ((key, s) :: rest)) : Worded rest := fun title ht =>
  h title (by
    unfold titlesIn
    exact List.mem_append_right _ ht)

/-- Every title of a record under the first property has a word. -/
theorem Worded.record (h : Worded ((key, s) :: rest)) (hs : s.record? = some (depth, r)) :
    ∀ title ∈ r.titles, hasWord title = true := by
  intro title ht
  obtain ⟨_, rfl, _⟩ := record?_eq_some hs
  refine h title ?_
  unfold titlesIn
  exact List.mem_append_left _ (mem_titles_of_mem_core ht)

end Worded

/-! ## 2. The name in closed form -/

theorem present?_of_ne_empty {s : String} (h : s ≠ "") : present? (some s) = some s := by
  simp [present?, Option.filter, h]

theorem append_ne_empty {s : String} (h : s ≠ "") (t : String) : s ++ t ≠ "" := fun e =>
  h (String.append_eq_empty_iff.mp e).1

/-- Behind the key, the arrays are the only mark of what a property holds. -/
theorem compose_zero (record key : String) : compose record key 0 = record ++ pascal key := by
  rw [compose, Name.items, String.append_empty]

theorem compose_append_items (record key : String) (depth : Nat) :
    compose record key 0 ++ Name.items depth = compose record key depth := by
  rw [compose_zero, compose]

/-- **The name a record asks for.** -/
theorem targetName_eq {record : String} (hrecord : record ≠ "") (key : String) (depth : Nat)
    {r : Schema} (hr : r.isRecord = true) :
    targetName record key depth r = pascal (r.title?.getD (compose record key depth)) := by
  have hne : compose record key depth ≠ "" := append_ne_empty (append_ne_empty hrecord _) _
  rw [targetName, compose_append_items, TypeRef.ofSchema, present?_of_ne_empty hne]
  exact TypeRef.name_of_isRecord hr _

theorem hasWord_title_or_compose {record : String} (hrecord : hasWord record = true)
    {r : Schema} (ht : ∀ title ∈ r.titles, hasWord title = true) (key : String) (depth : Nat) :
    hasWord (r.title?.getD (compose record key depth)) = true := by
  cases h : r.title? with
  | none => exact hasWord_append (hasWord_append hrecord)
  | some title => exact ht title (mem_titles_of_title? h)

/-- **It is a cased name** where the enclosing name and the titles have words. -/
theorem cased_targetName {record : String} (hrecord : hasWord record = true) (key : String)
    (depth : Nat) {r : Schema} (hr : r.isRecord = true)
    (ht : ∀ title ∈ r.titles, hasWord title = true) : Cased (targetName record key depth r) := by
  rw [targetName_eq (ne_empty_of_hasWord hrecord) key depth hr]
  exact cased_pascal (hasWord_title_or_compose hrecord ht key depth)

/-- So is the name it gets. -/
theorem cased_of_claim {scope scope' : Scope} {name claimed : String} (hname : Cased name)
    (h : (scope.claim name).result = .ok (claimed, scope')) : Cased claimed := by
  obtain ⟨_, _, e | ⟨_, k, e⟩⟩ := Scope.claim_ok h
  · exact e ▸ hname
  · exact e ▸ hname.withNumber k

end SchemaRecords.Record

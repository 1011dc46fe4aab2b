import Mathlib
import SchemaRecords.Proofs.TypeName

/-!
# The innermost name of a type

The name in a type as it is read off its text: under the lists, and without the mark for nothing.

* `innermost` -- that name;
* `innermost_spelling` -- lists and marks that are written around a name do not count;
* `name_ofSchemaIn_plain`, `innermost_fixed` -- where a schema comes to no record and no reference,
  it is one of `builtinNames`. Only those of formats are cased among them, and a type with one of
  these is that of a text with the format (`isFormatOf_of_mem`).
-/

namespace SchemaRecords.TypeRef

open Schema Name

/-! ## 1. Under the lists -/

/-- What stands in a list type. -/
def element? (name : List Char) : Option (List Char) :=
  (name.dropPrefix? "IReadOnlyList<".toList).bind (·.dropSuffix? ">".toList)

theorem element?_eq_some {name element : List Char} :
    element? name = some element ↔
      name = "IReadOnlyList<".toList ++ (element ++ ">".toList) := by
  simp only [element?, Option.bind_eq_some_iff, List.dropPrefix?_eq_some_iff,
    List.dropSuffix?_eq_some_iff, beq_iff_eq]
  constructor
  · rintro ⟨_, ⟨_, rfl, rfl⟩, _, rfl, rfl⟩
    rfl
  · rintro rfl
    exact ⟨_, ⟨_, rfl, rfl⟩, _, rfl, rfl⟩

/-- What stands under all lists of a type. -/
def underLists (name : List Char) : List Char :=
  match h : element? name with
  | some element =>
      have : element.length < name.length := by
        rw [element?_eq_some.mp h]
        simp only [List.length_append]
        have : 0 < "IReadOnlyList<".toList.length := by decide
        omega
      underLists element
  | none => name
termination_by name.length

/-- A name without the mark for nothing. -/
def unmarked (name : List Char) : List Char := (name.dropSuffix? "?".toList).getD name

/-- The innermost name of a type. -/
def innermost (name : String) : String := String.ofList (unmarked (underLists name.toList))

theorem underLists_listOf (name : String) :
    underLists (listOf name).toList = underLists name.toList := by
  have h : element? (listOf name).toList = some name.toList :=
    element?_eq_some.mpr (toList_listOf name)
  rw [underLists]
  split
  · rename_i hs
    rw [h] at hs
    cases hs
    rfl
  · rename_i hs
    rw [h] at hs
    cases hs

theorem underLists_listsOf (depth : Nat) (name : String) :
    underLists (listsOf depth name).toList = underLists name.toList := by
  induction depth with
  | zero => rfl
  | succ depth ih => rw [listsOf, underLists_listOf, ih]

theorem innermost_listsOf (depth : Nat) (name : String) :
    innermost (listsOf depth name) = innermost name := by
  rw [innermost, underLists_listsOf]
  rfl

/-! ## 2. Without the mark -/

/-- A mark behind a value type is none of its name. -/
theorem innermost_valueType_marked :
    ∀ name ∈ valueTypes, innermost (name ++ "?") = innermost name := by
  decide +kernel

theorem innermost_marked (nullable : Bool) (name : String) :
    innermost (marked nullable name) = innermost name := by
  unfold marked
  split
  · rename_i h
    have hv : valueTypes.contains name = true := (Bool.and_eq_true_iff.mp h).2
    exact innermost_valueType_marked name (List.contains_iff_mem.mp hv)
  · rfl

/-- **Lists and marks around a name do not count.** -/
@[simp] theorem innermost_spelling (depth : Nat) (nullable : Bool) (name : String) :
    innermost (spelling depth nullable name) = innermost name := by
  rw [spelling, innermost_listsOf]
  split
  · rfl
  · exact innermost_marked nullable name

/-! ## 3. Types of their own -/

/-- The names of the types that texts with a format have. -/
def formatNames : List String := ["DateTimeOffset", "DateOnly", "TimeOnly", "Uri", "Guid"]

/-- The innermost names of the fixed types. -/
def builtinNames : List String :=
  formatNames ++ [text, "int", "double", "bool", anything, dictionary]

theorem innermost_fixed : ∀ name ∈ fixedNames, innermost name ∈ builtinNames := by
  decide +kernel

/-- Of these names, those of formats are the only cased ones. -/
theorem mem_formatNames_of_pascal :
    ∀ name ∈ builtinNames, pascal name = name → name ∈ formatNames := by
  decide

/-- One of these names that goes on from that of a dictionary is the name itself. -/
theorem eq_dictionary_of_prefix :
    ∀ name ∈ builtinNames, dictionary.toList <+: name.toList → name = dictionary := by
  decide

/-- **The type of a schema that comes to no record and no reference** is spelled around one of the
    fixed names, in every context. -/
theorem name_ofSchemaIn_plain {s : Schema} (hs : s.record? = none)
    (hr : s.core.reference? = none) (context : Option String) :
    (ofSchemaIn context s).name =
        spelling s.depth s.core.keywords.nullable (ofSchemaIn none s.core).name ∧
      (ofSchemaIn none s.core).name ∈ fixedNames := by
  have hcore := name_of_not_isRecord (core_item? s) (record?_eq_none.mp hs)
  have hfixed := (hcore "").2
  rw [hr] at hfixed
  refine ⟨?_, hfixed⟩
  rw [name_ofSchemaIn]
  cases h : coreContext context s.depth with
  | none => rfl
  | some c => rw [(hcore c).1]

/-- A text with a format that has a type of this name. -/
def IsFormatOf (name : String) (s : Schema) : Prop :=
  s.reference? = none ∧ s.keywords.kind = .string ∧
    ∃ word, s.keywords.format = some word ∧
      formats.lookup (String.ofList (Text.lower word.toList)) = some name

theorem lookup_of_mem_formatNames {format : Option String}
    (h : innermost (ofFormat format) ∈ formatNames) :
    ∃ word, format = some word ∧
      formats.lookup (String.ofList (Text.lower word.toList)) =
        some (innermost (ofFormat format)) := by
  have htext : innermost text ∉ formatNames := by decide +kernel
  have hformats : ∀ e ∈ formats, innermost e.2 = e.2 := by decide +kernel
  cases format with
  | none => exact absurd h htext
  | some word =>
    refine ⟨word, rfl, ?_⟩
    unfold ofFormat at h ⊢
    dsimp only at h ⊢
    cases hl : formats.lookup (String.ofList (Text.lower word.toList)) with
    | none =>
      rw [hl] at h
      exact absurd h htext
    | some name =>
      obtain ⟨l₁, l₂, hm, _⟩ := List.lookup_eq_some_iff.mp hl
      have he := hformats _ (hm ▸ List.mem_append_right l₁ List.mem_cons_self)
      rw [Option.getD_some, he]

/-- **A core whose type has the name of a format is a text with that format.** -/
theorem isFormatOf_of_mem {s : Schema} (hs : s.item? = none) (h : s.isRecord = false)
    (hr : s.reference? = none) (hm : innermost (ofSchemaIn none s).name ∈ formatNames) :
    IsFormatOf (innermost (ofSchemaIn none s).name) s := by
  obtain ⟨k, items, properties⟩ := s
  have hr' : present? k.ref = none := hr
  unfold ofSchemaIn at hm ⊢
  simp only [hr', name_ofName] at hm ⊢
  cases hk : k.kind with
  | string =>
    rw [hk] at hm
    exact ⟨hr, hk, lookup_of_mem_formatNames hm⟩
  | array =>
    have hi : items = none := by simpa [item?, hr', hk] using hs
    subst hi
    rw [hk] at hm
    dsimp only at hm
    exact absurd hm (by decide +kernel)
  | object =>
    have hno : present? k.title = none ∧ properties = [] := by
      simpa [isRecord, reference?, title?, keywords, Schema.properties, hr', hk] using h
    obtain ⟨ht, rfl⟩ := hno
    rw [hk, ht] at hm
    dsimp only at hm
    exact absurd hm (by decide +kernel)
  | _ =>
    rw [hk] at hm
    dsimp only at hm
    exact absurd hm (by decide +kernel)

end SchemaRecords.TypeRef

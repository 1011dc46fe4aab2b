import Mathlib
import SchemaRecords.Proofs.Schema.Core

/-!
# Paths to records

Where the records of a schema are.

* `Step`, `Path` -- from a record to one that a property of it leads to, and so on down;
* `Leads` -- whether a path is one of a schema, step by step;
* `paths` -- the paths of a schema in the order of a walk: a record, then what is under its first
  property, then what is under its second;
* `mem_paths`, `paths_sorted` -- those are the paths that lead somewhere, each once, and their
  order is the lexicographic one of their positions.
-/

namespace SchemaRecords.Schema

/-! ## 1. Paths -/

/-- From a record to the record that one of its properties leads to: the position and the key of
    the property, the arrays between, and the record there. -/
structure Step where
  position : Nat
  key : String
  depth : Nat
  record : Schema

/-- The way to a record: from the root, one property after the other. -/
abbrev Path := List Step

/-- The positions of a path. -/
def Path.positions (path : Path) : List Nat := path.map (·.position)

/-- The record at the end of a path. -/
def Path.target (root : Schema) (path : Path) : Schema :=
  path.foldl (fun _ step => step.record) root

/-- **Whether a path is one of a record**: its first step is what one of the properties leads to,
    and the rest is a path of the record there. -/
def Leads (s : Schema) : Path → Prop
  | [] => True
  | step :: path =>
      (∃ p, s.properties[step.position]? = some (step.key, p) ∧
        p.record? = some (step.depth, step.record)) ∧
      Leads step.record path

/-- The paths that start with one of some properties, counted from a position on. -/
def pathsFrom (position : Nat) : List (String × Schema) → List Path
  | [] => []
  | (key, s) :: rest =>
      match h : s.record? with
      | none => pathsFrom (position + 1) rest
      | some (depth, r) =>
          have : sizeOf r.properties < sizeOf ((key, s) :: rest) := sizeOf_record_lt h key rest
          ([] :: pathsFrom 0 r.properties).map (⟨position, key, depth, r⟩ :: ·) ++
            pathsFrom (position + 1) rest
termination_by ps => sizeOf ps

/-- The paths of a schema, in the order of a walk. -/
def paths (s : Schema) : List Path := [] :: pathsFrom 0 s.properties

theorem pathsFrom_nil (position : Nat) : pathsFrom position [] = [] := by
  unfold pathsFrom
  rfl

theorem pathsFrom_plain {s : Schema} (h : s.record? = none) (position : Nat) (key : String)
    (rest : List (String × Schema)) :
    pathsFrom position ((key, s) :: rest) = pathsFrom (position + 1) rest := by
  rw [pathsFrom]
  split
  · rfl
  · rename_i hs
    rw [h] at hs
    cases hs

theorem pathsFrom_record {s r : Schema} {depth : Nat} (h : s.record? = some (depth, r))
    (position : Nat) (key : String) (rest : List (String × Schema)) :
    pathsFrom position ((key, s) :: rest) =
      r.paths.map (⟨position, key, depth, r⟩ :: ·) ++ pathsFrom (position + 1) rest := by
  rw [pathsFrom]
  split
  · rename_i hs
    rw [h] at hs
    cases hs
  · rename_i hs
    rw [h] at hs
    cases hs
    rfl

/-! ## 2. What is among the paths -/

/-- Whether a path starts with one of some properties, counted from a position on, and goes on
    from there. -/
def LeadsFrom (position : Nat) (ps : List (String × Schema)) : Path → Prop
  | [] => False
  | step :: path =>
      (∃ i p, step.position = position + i ∧ ps[i]? = some (step.key, p) ∧
        p.record? = some (step.depth, step.record)) ∧
      Leads step.record path

/-- Whether a path starts with the first property, or with one behind it. -/
theorem leadsFrom_cons {position : Nat} {key : String} {s : Schema}
    {rest : List (String × Schema)} {step : Step} {path : Path} :
    LeadsFrom position ((key, s) :: rest) (step :: path) ↔
      (step.position = position ∧ step.key = key ∧ s.record? = some (step.depth, step.record) ∧
        Leads step.record path) ∨
      LeadsFrom (position + 1) rest (step :: path) := by
  constructor
  · rintro ⟨⟨i, p, hi, hget, hr⟩, hl⟩
    cases i with
    | zero =>
      cases hget
      exact Or.inl ⟨hi, rfl, hr, hl⟩
    | succ i => exact Or.inr ⟨⟨i, p, by omega, hget, hr⟩, hl⟩
  · rintro (⟨hi, rfl, hr, hl⟩ | ⟨⟨i, p, hi, hget, hr⟩, hl⟩)
    · exact ⟨⟨0, s, hi, rfl, hr⟩, hl⟩
    · exact ⟨⟨i + 1, p, by omega, hget, hr⟩, hl⟩

theorem leads_iff_leadsFrom {s : Schema} {step : Step} {path : Path} :
    s.Leads (step :: path) ↔ LeadsFrom 0 s.properties (step :: path) := by
  constructor
  · rintro ⟨⟨p, hget, hr⟩, hl⟩
    exact ⟨⟨step.position, p, (Nat.zero_add _).symm, hget, hr⟩, hl⟩
  · rintro ⟨⟨i, p, hi, hget, hr⟩, hl⟩
    rw [Nat.zero_add] at hi
    subst hi
    exact ⟨⟨p, hget, hr⟩, hl⟩

theorem mem_paths_of_forall {s : Schema}
    (h : ∀ path, path ∈ pathsFrom 0 s.properties ↔ LeadsFrom 0 s.properties path) (path : Path) :
    path ∈ s.paths ↔ s.Leads path := by
  unfold paths
  cases path with
  | nil => exact ⟨fun _ => trivial, fun _ => List.mem_cons_self⟩
  | cons step path =>
    rw [leads_iff_leadsFrom, ← h, List.mem_cons]
    exact or_iff_right (List.cons_ne_nil step path)

theorem mem_pathsFrom (position : Nat) (ps : List (String × Schema)) (path : Path) :
    path ∈ pathsFrom position ps ↔ LeadsFrom position ps path := by
  induction ps using properties_induction generalizing position path with
  | nil =>
    rw [pathsFrom_nil]
    cases path <;> simp [LeadsFrom]
  | plain key s rest hs ih =>
    rw [pathsFrom_plain hs, ih]
    cases path with
    | nil => exact Iff.rfl
    | cons step path =>
      rw [leadsFrom_cons, hs]
      refine (or_iff_right ?_).symm
      rintro ⟨_, _, hr, _⟩
      cases hr
  | record key s rest depth r hs ihr ih =>
    rw [pathsFrom_record hs, List.mem_append, ih, List.mem_map]
    cases path with
    | nil => simp [LeadsFrom]
    | cons step path =>
      rw [leadsFrom_cons, hs]
      refine or_congr_left ⟨?_, ?_⟩
      · rintro ⟨tail, ht, e⟩
        cases e
        exact ⟨rfl, rfl, rfl, (mem_paths_of_forall (ihr 0) _).mp ht⟩
      · obtain ⟨i, k, d, below⟩ := step
        rintro ⟨rfl, rfl, hr, hl⟩
        cases hr
        exact ⟨path, (mem_paths_of_forall (ihr 0) _).mpr hl, rfl⟩

/-- **The paths of a schema are those that lead to a record of it.** -/
theorem mem_paths {s : Schema} {path : Path} : path ∈ s.paths ↔ s.Leads path :=
  mem_paths_of_forall (mem_pathsFrom 0 s.properties) path

/-- A path that starts from a position on starts with a step there or behind. -/
theorem exists_of_mem_pathsFrom {position : Nat} {ps : List (String × Schema)} {path : Path}
    (h : path ∈ pathsFrom position ps) :
    ∃ step tail, path = step :: tail ∧ position ≤ step.position := by
  have hl := (mem_pathsFrom position ps path).mp h
  cases path with
  | nil => exact hl.elim
  | cons step tail =>
    obtain ⟨⟨i, _, hi, _⟩, _⟩ := hl
    exact ⟨step, tail, rfl, by omega⟩

/-- A path goes on with a step where the record at its end has one. -/
theorem leads_append_singleton {s : Schema} {path : Path} {step : Step} :
    s.Leads (path ++ [step]) ↔ s.Leads path ∧
      ∃ p, (path.target s).properties[step.position]? = some (step.key, p) ∧
        p.record? = some (step.depth, step.record) := by
  induction path generalizing s with
  | nil => exact ⟨fun h => ⟨trivial, h.1⟩, fun h => ⟨h.2, trivial⟩⟩
  | cons first path ih =>
    constructor
    · rintro ⟨hfirst, h⟩
      obtain ⟨hl, hstep⟩ := ih.mp h
      exact ⟨⟨hfirst, hl⟩, hstep⟩
    · rintro ⟨⟨hfirst, hl⟩, hstep⟩
      exact ⟨hfirst, ih.mpr ⟨hl, hstep⟩⟩

theorem Path.target_append_singleton (s : Schema) (path : Path) (step : Step) :
    Path.target s (path ++ [step]) = step.record := by
  rw [target, List.foldl_append]
  rfl

/-! ## 3. Their order -/

/-- One path stands before another in the lexicographic order of positions. -/
def Path.Before (p q : Path) : Prop := List.Lex (· < ·) p.positions q.positions

theorem Path.before_cons {step : Step} {p q : Path} (h : Path.Before p q) :
    Path.Before (step :: p) (step :: q) :=
  List.Lex.cons h

theorem pathsFrom_sorted (position : Nat) (ps : List (String × Schema)) :
    (pathsFrom position ps).Pairwise Path.Before := by
  induction ps using properties_induction generalizing position with
  | nil =>
    rw [pathsFrom_nil]
    exact List.Pairwise.nil
  | plain key s rest hs ih =>
    rw [pathsFrom_plain hs]
    exact ih (position + 1)
  | record key s rest depth r hs ihr ih =>
    rw [pathsFrom_record hs, List.pairwise_append]
    refine ⟨?_, ih (position + 1), ?_⟩
    · refine List.Pairwise.map _ (fun _ _ h => Path.before_cons h) ?_
      refine List.pairwise_cons.mpr ⟨fun path hpath => ?_, ihr 0⟩
      obtain ⟨step, tail, rfl, _⟩ := exists_of_mem_pathsFrom hpath
      exact List.Lex.nil
    · intro p hp q hq
      obtain ⟨tail, _, rfl⟩ := List.mem_map.mp hp
      obtain ⟨step, tail', rfl, hle⟩ := exists_of_mem_pathsFrom hq
      exact List.Lex.rel hle

/-- **The paths of a schema stand in the order of their positions**, so none stands there
    twice. -/
theorem paths_sorted (s : Schema) : s.paths.Pairwise Path.Before := by
  refine List.pairwise_cons.mpr ⟨fun path hpath => ?_, pathsFrom_sorted 0 s.properties⟩
  obtain ⟨step, tail, rfl, _⟩ := exists_of_mem_pathsFrom hpath
  exact List.Lex.nil

end SchemaRecords.Schema

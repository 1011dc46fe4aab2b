import SchemaRecords.File.Tree

/-!
# The way along a path

Which locations the names of a path lead through, and what a tree may have there.

* `through`, `goal` -- the locations on the way and the one at its end, whatever stands there;
* `follow_eq_ok` -- the names of a path are followed exactly if each location on the way is a
  folder, and then they lead to the end of it;
* `Grown` -- a tree with some more folders on the way, in which every file is as it was; a path that
  could be followed still can (`Grown.follow`);
* `grown_ensureFolder` -- making folders leads to such a tree, also where it is denied in the
  middle.
-/

namespace SchemaRecords.File

/-! ## 1. Locations on the way -/

/-- The location that one more name leads to. -/
def step (l : Location) (name : String) : Location :=
  if name == ".." then l.dropLast else l ++ [name]

/-- The locations that names lead through, the first of them being where they start. -/
def through (l : Location) : List String → List Location
  | [] => []
  | name :: rest => l :: through (step l name) rest

/-- The location that names lead to. -/
def goal (l : Location) (names : List String) : Location := names.foldl step l

theorem through_concat (l : Location) (names : List String) (name : String) :
    through l (names ++ [name]) = through l names ++ [goal l names] := by
  induction names generalizing l with
  | nil => rfl
  | cons first rest ih => simp only [List.cons_append, through, ih, goal, List.foldl_cons]

/-- A name that an entry can have, or that leads back. -/
def Fits (name : String) : Prop := name = ".." ∨ Text.Utf8.size name ≤ Tree.longestName

/-- Where a path starts. -/
def Tree.start (t : Tree) (p : Path) : Location := if p.slashes == 0 then t.here else []

/-- The locations on the way of a path, with the one at its end. -/
def Tree.way (t : Tree) (p : Path) : List Location :=
  through (t.start p) p.names ++ [goal (t.start p) p.names]

namespace Tree

variable {t t' : Tree} {l m : Location} {p : Path}

/-! ## 2. Following names -/

theorem follow_cons_folder (h : t.entry l = some .folder) {name : String} (hn : Fits name)
    (rest : List String) : t.follow l (name :: rest) = t.follow (step l name) rest := by
  rw [follow, h, step]
  dsimp only
  split
  · rfl
  · rename_i hback
    have hshort : Text.Utf8.size name ≤ longestName :=
      hn.resolve_left fun e => hback (beq_iff_eq.mpr e)
    rw [if_neg (Nat.not_lt.mpr hshort)]

/-- **Names are followed exactly if each location on the way is a folder**; they lead to the end of
    the way. -/
theorem follow_eq_ok {names : List String} :
    t.follow l names = .ok m ↔
      (∀ s ∈ through l names, t.entry s = some .folder) ∧ (∀ name ∈ names, Fits name) ∧
        m = goal l names := by
  induction names generalizing l with
  | nil =>
    simp only [follow, through, goal, List.foldl_nil, Except.ok.injEq, List.not_mem_nil,
      false_implies, implies_true, true_and]
    exact eq_comm
  | cons name rest ih =>
    rw [through, List.forall_mem_cons, List.forall_mem_cons]
    constructor
    · intro h
      have hfolder : t.entry l = some .folder := by
        rw [follow] at h
        split at h
        · cases h
        · cases h
        · assumption
      have hfits : Fits name := by
        rw [follow, hfolder] at h
        dsimp only at h
        split at h
        · exact Or.inl (by simpa using ‹(name == "..") = true›)
        · split at h
          · cases h
          · exact Or.inr (Nat.not_lt.mp (by assumption))
      rw [follow_cons_folder hfolder hfits] at h
      obtain ⟨hway, hrest, rfl⟩ := ih.mp h
      exact ⟨⟨hfolder, hway⟩, ⟨hfits, hrest⟩, rfl⟩
    · rintro ⟨⟨hfolder, hway⟩, ⟨hfits, hrest⟩, rfl⟩
      rw [follow_cons_folder hfolder hfits]
      exact ih.mpr ⟨hway, hrest, rfl⟩

/-- Where no file stands on the way, names lead to the end of it or to where nothing stands. -/
theorem follow_of_clear {names : List String}
    (hway : ∀ s ∈ through l names, ∀ octets, t.entry s ≠ some (.file octets))
    (hfits : ∀ name ∈ names, Fits name) :
    t.follow l names = .ok (goal l names) ∨ t.follow l names = .error .noEntry := by
  induction names generalizing l with
  | nil => exact Or.inl rfl
  | cons name rest ih =>
    rw [through, List.forall_mem_cons] at hway
    cases h : t.entry l with
    | none => exact Or.inr (by rw [follow, h])
    | some e =>
      cases e with
      | file octets => exact absurd h (hway.1 octets)
      | folder =>
        rw [follow_cons_folder h (List.forall_mem_cons.mp hfits).1]
        exact ih hway.2 (List.forall_mem_cons.mp hfits).2

theorem locate_eq_ok :
    t.locate p = .ok m ↔
      Text.Utf8.size p.text ≤ longestPath ∧ t.follow (t.start p) p.names = .ok m := by
  unfold locate
  split
  · rename_i h
    exact iff_of_false nofun fun ⟨hle, _⟩ => Nat.not_lt.mpr hle h
  · rename_i h
    exact (and_iff_right (Nat.not_lt.mp h)).symm

theorem locate_eq_noEntry (hle : Text.Utf8.size p.text ≤ longestPath)
    (h : t.follow (t.start p) p.names = .error .noEntry) : t.locate p = .error .noEntry := by
  rw [locate, if_neg (Nat.not_lt.mpr hle)]
  exact h

theorem isFolder_iff : t.isFolder p = true ↔ ∃ l, t.locate p = .ok l ∧ t.entry l = some .folder := by
  unfold isFolder
  split
  · rename_i l h
    rw [h]
    simp
  · rename_i reason h
    rw [h]
    simp

/-! ## 3. More folders -/

/-- **The same tree with some more folders, all of them on a way**: what stood somewhere stands
    there still. -/
structure Grown (way : List Location) (t t' : Tree) : Prop where
  here : t'.here = t.here
  entry : ∀ l, t'.entry l = t.entry l ∨
    l ∈ way ∧ t.entry l = none ∧ t'.entry l = some .folder

namespace Grown

variable {way : List Location}

theorem refl (way : List Location) (t : Tree) : Grown way t t := ⟨rfl, fun _ => Or.inl rfl⟩

theorem mono {way' : List Location} (h : Grown way t t') (hway : way ⊆ way') : Grown way' t t' :=
  ⟨h.here, fun l => (h.entry l).imp_right fun ⟨hl, he⟩ => ⟨hway hl, he⟩⟩

theorem trans {t'' : Tree} (h : Grown way t t') (h' : Grown way t' t'') : Grown way t t'' := by
  refine ⟨h'.here.trans h.here, fun l => ?_⟩
  rcases h.entry l with e | ⟨hl, hnone, hfolder⟩
  · rcases h'.entry l with e' | ⟨hl, hnone, hfolder⟩
    · exact Or.inl (e'.trans e)
    · exact Or.inr ⟨hl, e ▸ hnone, hfolder⟩
  · rcases h'.entry l with e' | ⟨_, hnone', _⟩
    · exact Or.inr ⟨hl, hnone, e'.trans hfolder⟩
    · rw [hfolder] at hnone'
      cases hnone'

/-- A new folder stands where nothing stood. -/
theorem set_folder (hl : l ∈ way) (h : t.entry l = none) : Grown way t (t.set l .folder) := by
  refine ⟨rfl, fun m => ?_⟩
  by_cases e : m = l
  · subst e
    refine Or.inr ⟨hl, h, entry_set_self t .folder fun e => ?_⟩
    subst e
    cases h
  · exact Or.inl (entry_set_of_ne t .folder e)

/-- **Every file is as it was**, and there is no new one. -/
theorem file_iff (h : Grown way t t') (l : Location) (octets : List UInt8) :
    t'.entry l = some (.file octets) ↔ t.entry l = some (.file octets) := by
  rcases h.entry l with e | ⟨_, hnone, hfolder⟩
  · rw [e]
  · rw [hnone, hfolder]
    exact iff_of_false nofun nofun

theorem folder (h : Grown way t t') (hl : t.entry l = some .folder) :
    t'.entry l = some .folder := by
  rcases h.entry l with e | ⟨_, _, hfolder⟩
  · exact e.trans hl
  · exact hfolder

theorem entry_eq (h : Grown way t t') (hl : l ∉ way) : t'.entry l = t.entry l :=
  (h.entry l).resolve_right fun ⟨hmem, _⟩ => hl hmem

theorem start_eq (h : Grown way t t') (p : Path) : t'.start p = t.start p := by
  unfold start
  rw [h.here]

/-- A way that could be followed still can. -/
theorem follow (h : Grown way t t') {names : List String} (hf : t.follow l names = .ok m) :
    t'.follow l names = .ok m := by
  obtain ⟨hway, hrest⟩ := follow_eq_ok.mp hf
  exact follow_eq_ok.mpr ⟨fun s hs => h.folder (hway s hs), hrest⟩

theorem locate (h : Grown way t t') (hl : t.locate p = .ok m) : t'.locate p = .ok m := by
  obtain ⟨hle, hf⟩ := locate_eq_ok.mp hl
  exact locate_eq_ok.mpr ⟨hle, h.start_eq p ▸ h.follow hf⟩

end Grown

/-- Where nothing stands, and only there, a folder is made. -/
theorem makeFolder_eq_ok :
    t.makeFolder p = .ok t' ↔ ∃ l, t.locate p = .ok l ∧ t.entry l = none ∧ t' = t.set l .folder := by
  unfold makeFolder
  cases h : t.locate p with
  | error reason => exact iff_of_false nofun fun ⟨_, hl, _⟩ => nomatch hl
  | ok l =>
    show (if (t.entry l).isSome then _ else _) = _ ↔ _
    cases he : t.entry l with
    | some e => exact iff_of_false nofun fun ⟨_, hl, hn, _⟩ => by cases hl; rw [he] at hn; cases hn
    | none =>
      constructor
      · intro e
        cases e
        exact ⟨l, rfl, he, rfl⟩
      · rintro ⟨_, hl, _, rfl⟩
        cases hl
        rfl

/-- There is nothing to make a folder in exactly if the way breaks off before its end. -/
theorem makeFolder_eq_noEntry :
    t.makeFolder p = .error .noEntry ↔ t.locate p = .error .noEntry := by
  unfold makeFolder
  cases h : t.locate p with
  | error reason => exact ⟨fun e => by cases e; rfl, fun e => by cases e; rfl⟩
  | ok l =>
    refine iff_of_false (fun e => ?_) nofun
    change (if (t.entry l).isSome then _ else _) = _ at e
    split at e <;> cases e

theorem goal_mem_way (t : Tree) (p : Path) : goal (t.start p) p.names ∈ t.way p :=
  List.mem_append_right _ List.mem_cons_self

theorem grown_admitFolder (h : t.admitFolder p = .ok t') :
    Grown [goal (t.start p) p.names] t t' := by
  unfold admitFolder at h
  split at h
  · rename_i made hmade
    cases h
    obtain ⟨l, hl, hn, rfl⟩ := makeFolder_eq_ok.mp hmade
    obtain ⟨_, _, rfl⟩ := follow_eq_ok.mp (locate_eq_ok.mp hl).2
    exact .set_folder List.mem_cons_self hn
  · split at h
    · cases h
      exact .refl _ t
    · cases h

/-- The way to the folders above is a part of the way. -/
theorem way_above_subset (t : Tree) (slashes : Nat) (above : List String) (name : String) :
    t.way ⟨slashes, above⟩ ⊆ t.way ⟨slashes, above ++ [name]⟩ := by
  unfold way
  dsimp only
  rw [through_concat]
  exact List.subset_append_left _ _

/-- What one more folder leaves of a tree that has grown. -/
theorem Grown.admitFolder {way : List Location} (h : Grown way t t')
    (hway : goal (t.start p) p.names ∈ way) :
    Grown way t (Change.ofStep t' (t'.admitFolder p)).tree := by
  cases hmade : t'.admitFolder p with
  | error denial => exact h
  | ok t'' =>
    refine h.trans ((grown_admitFolder hmade).mono ?_)
    rw [h.start_eq p]
    exact List.cons_subset.mpr ⟨hway, List.nil_subset way⟩

theorem grown_ensureNames (slashes : Nat) (names : List String) (t : Tree) :
    Grown (t.way ⟨slashes, names.reverse⟩) t (ensureNames slashes names t).tree := by
  induction names with
  | nil => exact (Grown.refl _ t).admitFolder (goal_mem_way t _)
  | cons name above ih =>
    have hgoal := goal_mem_way t ⟨slashes, (name :: above).reverse⟩
    have hup : t.way ⟨slashes, above.reverse⟩ ⊆ t.way ⟨slashes, (name :: above).reverse⟩ := by
      rw [List.reverse_cons]
      exact way_above_subset t slashes above.reverse name
    unfold ensureNames
    dsimp only
    split
    · unfold Change.next
      split
      · exact ih.mono hup
      · exact (ih.mono hup).admitFolder hgoal
    · exact (Grown.refl _ t).admitFolder hgoal

/-- **Making a folder and those above it leaves every file as it was**, whether or not it is
    denied. -/
theorem grown_ensureFolder (t : Tree) (p : Path) :
    Grown (t.way p) t (t.ensureFolder p).tree := by
  have h := grown_ensureNames p.slashes p.names.reverse t
  rwa [List.reverse_reverse] at h

end Tree

end SchemaRecords.File

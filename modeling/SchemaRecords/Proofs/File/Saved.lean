import SchemaRecords.Proofs.File.Way

/-!
# What saving a file does

* `Creatable` -- a path at which a file can be made: its names fit, no file stands on the way, the
  end of the way is not on the way itself, and no folder stands there;
* `save_denial_eq_none` -- a file is saved at exactly those paths;
* `grown_save_of_denial`, `save_eq` -- where saving is denied, there are some more folders at most;
  where it is not, there is the new file besides;
* `save_saved` -- the file is read from its path, and every other file is as it was.
-/

namespace SchemaRecords.File

namespace Tree

variable {t t' : Tree} {l m : Location} {p : Path} {octets : List UInt8}

/-! ## 1. Where a file can be made -/

/-- **A path at which a file can be made.** What stands on the way are folders, or there is nothing
    yet. -/
structure Creatable (t : Tree) (p : Path) : Prop where
  short : Text.Utf8.size p.text ≤ longestPath
  named : p.names ≠ []
  fits : ∀ name ∈ p.names, Fits name
  clear : ∀ l ∈ through (t.start p) p.names, ∀ octets, t.entry l ≠ some (.file octets)
  apart : goal (t.start p) p.names ∉ through (t.start p) p.names
  free : t.entry (goal (t.start p) p.names) ≠ some .folder

/-- The text of a path is no shorter than that of the path above, or short anyway. -/
theorem short_above {slashes : Nat} {above : List String} {name : String}
    (h : Text.Utf8.size (⟨slashes, above ++ [name]⟩ : Path).text ≤ longestPath) :
    Text.Utf8.size (⟨slashes, above⟩ : Path).text ≤ longestPath := by
  have hjoined : Text.Utf8.size ("/".intercalate above) ≤
      Text.Utf8.size ("/".intercalate (above ++ [name])) := by
    by_cases ha : above = []
    · subst ha
      exact Nat.zero_le _
    · rw [String.intercalate_append_of_ne_nil ha (List.cons_ne_nil name []),
        Text.Utf8.size_append, Text.Utf8.size_append]
      omega
  unfold Path.text at h ⊢
  dsimp only at h ⊢
  split
  · rename_i hs
    rw [if_pos hs, if_neg (by simp)] at h
    split
    · decide
    · exact Nat.le_trans hjoined h
  · rename_i hs
    rw [if_neg hs, Text.Utf8.size_append] at h
    rw [Text.Utf8.size_append]
    omega

/-! ## 2. Making the folders above -/

/-- A folder that was made, or was there, is where its path leads. -/
theorem isFolder_of_admitFolder (h : t.admitFolder p = .ok t') : t'.isFolder p = true := by
  have hgrown := grown_admitFolder h
  unfold admitFolder at h
  split at h
  · rename_i made hmade
    cases h
    obtain ⟨l, hl, hn, rfl⟩ := makeFolder_eq_ok.mp hmade
    refine isFolder_iff.mpr ⟨l, hgrown.locate hl, entry_set_self t .folder fun e => ?_⟩
    subst e
    cases hn
  · split at h
    · cases h
      assumption
    · cases h

/-- Where a path leads to a folder, or to nothing, a folder can be had there. -/
theorem exists_admitFolder (hl : t.locate p = .ok l)
    (hfile : ∀ octets, t.entry l ≠ some (.file octets)) : ∃ t', t.admitFolder p = .ok t' := by
  unfold admitFolder
  split
  · exact ⟨_, rfl⟩
  · rename_i reason hmade
    have hfolder : t.entry l = some .folder := by
      cases he : t.entry l with
      | none =>
        rw [makeFolder_eq_ok.mpr ⟨l, hl, he, rfl⟩] at hmade
        cases hmade
      | some e =>
        cases e with
        | folder => rfl
        | file octets => exact absurd he (hfile octets)
    rw [if_pos (isFolder_iff.mpr ⟨l, hl, hfolder⟩)]
    exact ⟨t, rfl⟩

/-- Below a folder, a path leads on by one name. -/
theorem locate_concat {slashes : Nat} {above : List String} {name : String}
    (hshort : Text.Utf8.size (⟨slashes, above ++ [name]⟩ : Path).text ≤ longestPath)
    (hfits : Fits name) (h : t.isFolder ⟨slashes, above⟩ = true) :
    t.locate ⟨slashes, above ++ [name]⟩ =
      .ok (goal (t.start ⟨slashes, []⟩) (above ++ [name])) := by
  obtain ⟨l, hl, hfolder⟩ := isFolder_iff.mp h
  obtain ⟨hway, habove, rfl⟩ := follow_eq_ok.mp (locate_eq_ok.mp hl).2
  refine locate_eq_ok.mpr ⟨hshort, follow_eq_ok.mpr ⟨?_, ?_, rfl⟩⟩
  · rw [through_concat]
    exact List.forall_mem_append.mpr ⟨hway, List.forall_mem_singleton.mpr hfolder⟩
  · exact List.forall_mem_append.mpr ⟨habove, List.forall_mem_singleton.mpr hfits⟩

/-- Once the folder above is there, one can be had below it, if no file was in its place before
    the folders above were made. -/
theorem exists_admitFolder_below {places : List Location} {slashes : Nat} {above : List String}
    {name : String} (hgrown : Grown places t t')
    (hshort : Text.Utf8.size (⟨slashes, above ++ [name]⟩ : Path).text ≤ longestPath)
    (hfits : Fits name) (habove : t'.isFolder ⟨slashes, above⟩ = true)
    (hend : ∀ octets,
      t.entry (goal (t.start ⟨slashes, []⟩) (above ++ [name])) ≠ some (.file octets)) :
    ∃ t'', t'.admitFolder ⟨slashes, above ++ [name]⟩ = .ok t'' := by
  refine exists_admitFolder (locate_concat hshort hfits habove) fun octets he => ?_
  rw [hgrown.start_eq, hgrown.file_iff] at he
  exact hend octets he

/-- **Where names fit and no file stands on the way nor at its end, the folders are made**, and the
    path leads to the last of them. The names are taken from the last to the first. -/
theorem ensureNames_of_clear (slashes : Nat) (names : List String)
    (hshort : Text.Utf8.size (⟨slashes, names.reverse⟩ : Path).text ≤ longestPath)
    (hfits : ∀ name ∈ names.reverse, Fits name)
    (hclear : ∀ s ∈ t.way ⟨slashes, names.reverse⟩, ∀ octets, t.entry s ≠ some (.file octets)) :
    ∃ t', ensureNames slashes names t = ⟨t', none⟩ ∧
      t'.isFolder ⟨slashes, names.reverse⟩ = true := by
  have hend := hclear _ (goal_mem_way t _)
  induction names with
  | nil =>
    have hl : t.locate ⟨slashes, []⟩ = .ok (t.start ⟨slashes, []⟩) :=
      locate_eq_ok.mpr ⟨hshort, rfl⟩
    obtain ⟨t', hadmitted⟩ := exists_admitFolder hl hend
    exact ⟨t', by rw [ensureNames, hadmitted, Change.ofStep], isFolder_of_admitFolder hadmitted⟩
  | cons name above ih =>
    rw [List.reverse_cons] at hshort hfits hclear hend ⊢
    unfold ensureNames
    rw [List.reverse_cons]
    dsimp only
    rcases follow_of_clear (fun s hs => hclear s (List.mem_append_left _ hs)) hfits with
      hfollow | hfollow
    · -- all folders above are there
      have hl := locate_eq_ok.mpr ⟨hshort, hfollow⟩
      obtain ⟨t', hadmitted⟩ := exists_admitFolder hl hend
      refine ⟨t', ?_, isFolder_of_admitFolder hadmitted⟩
      split
      · rename_i hmade
        cases hl.symm.trans (makeFolder_eq_noEntry.mp hmade)
      · rw [hadmitted, Change.ofStep]
    · -- one is missing, so they are made first
      have hup : ∀ s ∈ t.way ⟨slashes, above.reverse⟩, ∀ octets,
          t.entry s ≠ some (.file octets) := fun s hs =>
        hclear s (way_above_subset t slashes above.reverse name hs)
      obtain ⟨t₁, hmade, habove⟩ := ih (short_above hshort)
        (fun n hn => hfits n (List.mem_append_left _ hn)) hup (hup _ (goal_mem_way t _))
      have hgrown := grown_ensureNames slashes above t
      rw [hmade] at hgrown
      obtain ⟨t', hadmitted⟩ :=
        exists_admitFolder_below hgrown hshort (hfits name (by simp)) habove hend
      refine ⟨t', ?_, isFolder_of_admitFolder hadmitted⟩
      rw [makeFolder_eq_noEntry.mpr (locate_eq_noEntry hshort hfollow)]
      dsimp only
      rw [hmade]
      show Change.ofStep t₁ (t₁.admitFolder _) = _
      rw [hadmitted, Change.ofStep]

/-- So it is with the folders of a path. -/
theorem ensureFolder_of_clear (hshort : Text.Utf8.size p.text ≤ longestPath)
    (hfits : ∀ name ∈ p.names, Fits name)
    (hclear : ∀ s ∈ t.way p, ∀ octets, t.entry s ≠ some (.file octets)) :
    ∃ t', t.ensureFolder p = ⟨t', none⟩ ∧ t'.isFolder p = true := by
  obtain ⟨slashes, names⟩ := p
  have e : names.reverse.reverse = names := List.reverse_reverse names
  have h := @ensureNames_of_clear t slashes names.reverse
  rw [e] at h
  exact h hshort hfits hclear

/-! ## 3. Saving -/

theorem write_eq_ok :
    t.write p octets = .ok t' ↔
      ∃ l, t.locate p = .ok l ∧ t.entry l ≠ some .folder ∧ t' = t.set l (.file octets) := by
  unfold write
  cases h : t.locate p with
  | error reason => exact iff_of_false nofun fun ⟨_, hl, _⟩ => nomatch hl
  | ok l =>
    dsimp only
    split
    · rename_i he
      refine iff_of_false nofun ?_
      rintro ⟨_, hl, hne, _⟩
      cases hl
      exact hne (beq_iff_eq.mp he)
    · rename_i he
      constructor
      · intro e
        cases e
        exact ⟨l, rfl, fun e => he (beq_iff_eq.mpr e), rfl⟩
      · rintro ⟨_, hl, _, rfl⟩
        cases hl
        rfl

/-- Saving is denied with the folder above, or it comes down to writing. -/
theorem save_cases (t : Tree) (p : Path) (octets : List UInt8) :
    (t.ensureFolder p.parent).denial.isSome = true ∧
        t.save p octets = t.ensureFolder p.parent ∨
      ∃ t₁, t.ensureFolder p.parent = ⟨t₁, none⟩ ∧
        t.save p octets = .ofStep t₁ (t₁.write p octets) := by
  unfold save Change.next
  split
  · exact Or.inl ⟨by assumption, rfl⟩
  · rename_i h
    refine Or.inr ⟨_, ?_, rfl⟩
    rw [← Option.not_isSome_iff_eq_none.mp h]

/-- **Where saving is denied, there are some more folders at most.** -/
theorem grown_save_of_denial (h : (t.save p octets).denial ≠ none) :
    Grown (t.way p.parent) t (t.save p octets).tree := by
  have hgrown := grown_ensureFolder t p.parent
  rcases save_cases t p octets with ⟨_, e⟩ | ⟨t₁, hmade, e⟩
  · rw [e]
    exact hgrown
  · rw [hmade] at hgrown
    rw [e] at h ⊢
    cases hw : t₁.write p octets with
    | error denial => exact hgrown
    | ok t' =>
      rw [hw] at h
      exact absurd rfl h

/-- Where it is not, there is the file besides, at the end of the way. -/
theorem save_eq (h : (t.save p octets).denial = none) :
    ∃ t₁ l, t.ensureFolder p.parent = ⟨t₁, none⟩ ∧ Grown (t.way p.parent) t t₁ ∧
      t₁.locate p = .ok l ∧ t₁.entry l ≠ some .folder ∧
        (t.save p octets).tree = t₁.set l (.file octets) := by
  have hgrown := grown_ensureFolder t p.parent
  rcases save_cases t p octets with ⟨hd, e⟩ | ⟨t₁, hmade, e⟩
  · rw [← e, h] at hd
    cases hd
  · rw [hmade] at hgrown
    rw [e] at h ⊢
    cases hw : t₁.write p octets with
    | error denial =>
      rw [hw] at h
      cases h
    | ok t' =>
      obtain ⟨l, hl, hne, rfl⟩ := write_eq_ok.mp hw
      exact ⟨t₁, l, hmade, hgrown, hl, hne, rfl⟩

/-- A path without names leads to a folder once those above it are made. -/
theorem isFolder_of_ensureFolder_nil {slashes : Nat}
    (h : t.ensureFolder ⟨slashes, []⟩ = ⟨t', none⟩) : t'.isFolder ⟨slashes, []⟩ = true := by
  unfold ensureFolder at h
  change Change.ofStep t (t.admitFolder ⟨slashes, []⟩) = _ at h
  cases hadmitted : t.admitFolder ⟨slashes, []⟩ with
  | error denial =>
    rw [hadmitted] at h
    cases h
  | ok made =>
    rw [hadmitted] at h
    cases h
    exact isFolder_of_admitFolder hadmitted

/-- A path at which a file was saved is one at which a file can be made. -/
theorem creatable_of_save (h : (t.save p octets).denial = none) : t.Creatable p := by
  obtain ⟨t₁, l, hmade, hgrown, hl, hne, _⟩ := save_eq h
  obtain ⟨hshort, hfollow⟩ := locate_eq_ok.mp hl
  obtain ⟨hway, hfits, rfl⟩ := follow_eq_ok.mp hfollow
  refine ⟨hshort, fun hnil => ?_, hfits, fun s hs octets he => ?_, fun hmem => ?_, fun he => ?_⟩
  · obtain ⟨slashes, names⟩ := p
    cases hnil
    obtain ⟨l, hl', hfolder⟩ := isFolder_iff.mp (isFolder_of_ensureFolder_nil hmade)
    cases hl.symm.trans hl'
    exact hne hfolder
  · have hfile := (hgrown.file_iff s octets).mpr he
    rw [hway s (hgrown.start_eq p ▸ hs)] at hfile
    cases hfile
  · exact hne (hway _ (hgrown.start_eq p ▸ hmem))
  · exact hne (hgrown.folder (hgrown.start_eq p ▸ he))

/-- At a path at which a file can be made, it is saved. -/
theorem Creatable.save (h : t.Creatable p) (octets : List UInt8) :
    (t.save p octets).denial = none := by
  obtain ⟨slashes, names⟩ := p
  obtain ⟨hshort, hnamed, hfits, hclear, hapart, hfree⟩ := h
  dsimp only at hnamed hfits hclear hapart hfree
  obtain ⟨above, name, rfl⟩ : ∃ above name, names = above ++ [name] :=
    ⟨_, _, (List.dropLast_concat_getLast hnamed).symm⟩
  have hparent : (⟨slashes, above ++ [name]⟩ : Path).parent = ⟨slashes, above⟩ := by
    rw [Path.parent, List.dropLast_concat]
  rw [through_concat] at hclear hapart
  obtain ⟨t₁, hmade, hfolder⟩ := ensureFolder_of_clear (p := ⟨slashes, above⟩) (short_above hshort)
    (fun n hn => hfits n (List.mem_append_left _ hn)) hclear
  have hgrown := grown_ensureFolder t ⟨slashes, above⟩
  rw [hmade] at hgrown
  have hl := locate_concat hshort (hfits name (by simp)) hfolder
  rw [hgrown.start_eq] at hl
  have hne : t₁.entry (goal (t.start ⟨slashes, []⟩) (above ++ [name])) ≠ some .folder :=
    fun he => hfree ((hgrown.entry_eq hapart).symm.trans he)
  rcases save_cases t ⟨slashes, above ++ [name]⟩ octets with ⟨hd, _⟩ | ⟨t₁', hmade', e⟩
  · rw [hparent, hmade] at hd
    cases hd
  · rw [hparent, hmade] at hmade'
    cases hmade'
    rw [e, write_eq_ok.mpr ⟨_, hl, hne, rfl⟩]
    rfl

/-- **Exactly at the paths at which a file can be made, it is saved.** -/
theorem save_denial_eq_none : (t.save p octets).denial = none ↔ t.Creatable p :=
  ⟨creatable_of_save, fun h => h.save octets⟩

/-- **A file that was saved is read from its path, and every other file is as it was.** -/
theorem save_saved (h : (t.save p octets).denial = none) :
    (t.save p octets).tree.locate p = .ok (goal (t.start p) p.names) ∧
      (t.save p octets).tree.read p = .ok octets ∧
      ∀ m, m ≠ goal (t.start p) p.names → ∀ others,
        (t.save p octets).tree.entry m = some (.file others) ↔ t.entry m = some (.file others) := by
  obtain ⟨t₁, l, _, hgrown, hl, hne, e⟩ := save_eq h
  obtain ⟨hshort, hfollow⟩ := locate_eq_ok.mp hl
  obtain ⟨hway, hfits, rfl⟩ := follow_eq_ok.mp hfollow
  have hroot : goal (t₁.start p) p.names ≠ [] := fun hroot => hne (by rw [hroot]; rfl)
  have hl' : (t₁.set (goal (t₁.start p) p.names) (.file octets)).locate p =
      .ok (goal (t₁.start p) p.names) := by
    refine locate_eq_ok.mpr ⟨hshort, follow_eq_ok.mpr ⟨fun s hs => ?_, hfits, rfl⟩⟩
    have hfolder := hway s hs
    have hs : s ≠ goal (t₁.start p) p.names := fun hs => hne (hs ▸ hfolder)
    rwa [entry_set_of_ne t₁ _ hs]
  rw [e, ← hgrown.start_eq p]
  refine ⟨hl', ?_, fun m hm others => ?_⟩
  · unfold read
    rw [hl']
    dsimp only
    rw [entry_set_self t₁ _ hroot]
  · rw [entry_set_of_ne t₁ _ hm]
    exact hgrown.file_iff m others

end Tree

end SchemaRecords.File

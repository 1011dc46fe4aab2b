import SchemaRecords.Json.Reader
import SchemaRecords.Json.Writer
import SchemaRecords.Proofs.Text.Units

/-!
# Texts are read as they are written

* `ofHex?_hexFixed` -- digits of a fixed width are read as the number they were written from;
* `escapeChar_cases` -- the four ways in which a character is written;
* `readUnits_escaped` -- an escaped text is read as its units of sixteen bits;
* `joined` -- a text with all its split pairs joined; `joined_eq_self_iff` -- it is the text itself
  exactly if that has none;
* `readText_escaped` -- **a text between quotes is read back**, whatever follows it, but for split
  pairs.
-/

namespace SchemaRecords.Json

open Document Text

/-! ## 1. Hexadecimal digits -/

theorem hexValue?_hexDigit {n : Nat} (hn : n < 16) : hexValue? (hexDigit n) = some n := by
  interval_cases n <;> decide

theorem ofHex?_append {s t : List Char} {n : Nat} (h : ofHex? s = some n) :
    ofHex? (s ++ t) = t.foldlM (fun n c => (hexValue? c).map (n * 16 + ·)) n := by
  rw [ofHex?] at h ⊢
  rw [List.foldlM_append, h]
  rfl

/-- **The digits of a number in a fixed width are read as the number**, if it fits. -/
theorem ofHex?_hexFixed (width : Nat) {n : Nat} (hn : n < 16 ^ width) :
    ofHex? (hexFixed width n) = some n := by
  induction width generalizing n with
  | zero =>
    obtain rfl : n = 0 := by omega
    rfl
  | succ w ih =>
    have hdiv : n / 16 < 16 ^ w := by
      rw [Nat.pow_succ] at hn
      exact Nat.div_lt_of_lt_mul (by omega)
    rw [hexFixed, ofHex?_append (ih hdiv), List.foldlM_cons,
      hexValue?_hexDigit (Nat.mod_lt n (by norm_num))]
    have : n / 16 * 16 + n % 16 = n := Nat.div_add_mod' n 16
    simp [this]

/-- Four digits, one by one. -/
theorem exists_hexFixed_four (n : Nat) : ∃ a b c d, hexFixed 4 n = [a, b, c, d] := ⟨_, _, _, _, rfl⟩

/-! ## 2. Units -/

theorem readUnits_unitEscape (start : Nat) {n : Nat} (hn : n < 0x10000) {rest : List Char}
    (hrest : rest ≠ []) :
    readUnits start (unitEscape n ++ rest) = consUnit n (readUnits start rest) := by
  obtain ⟨a, b, c, d, h⟩ := exists_hexFixed_four n
  have hvalue := ofHex?_hexFixed 4 (n := n) (by omega)
  rw [h] at hvalue
  rw [unitEscape, h, List.cons_append, List.cons_append, List.cons_append, List.cons_append,
    List.cons_append, List.cons_append, List.nil_append, readUnits,
    List.isEmpty_eq_false_iff.mpr hrest, hvalue]

/-- A character with a short escape. -/
theorem readUnits_shortEscape (start : Nat) {c : Char} {n : Nat} (hc : shortEscape? c = some n)
    (rest : List Char) :
    readUnits start ('\\' :: c :: rest) = consUnit n (readUnits start rest) := by
  have hu : c ≠ 'u' := by
    rintro rfl
    cases hc
  rw [readUnits, hc]
  all_goals simp [hu]

/-- A character that stands for itself. -/
theorem readUnits_plain (start : Nat) {c : Char} (hquote : c ≠ '"') (hback : c ≠ '\\')
    (hcontrol : 0x20 ≤ c.toNat) (rest : List Char) :
    readUnits start (c :: rest) = consUnit (number c) (readUnits start rest) := by
  have hnot : ¬ c.toNat < 0x20 := by omega
  rw [readUnits, if_neg hnot]
  all_goals simp [hquote, hback]

/-- A character is its number where that is no half's. -/
theorem eq_of_number {c d : Char} (hd : d.toNat < 0xD800) (h : number c = d.toNat) : c = d := by
  rcases number_cases c with ⟨_, hlow, _⟩ | ⟨_, hc, _⟩
  · omega
  · exact Char.toNat_inj.mp (hc.symm.trans h)

/-- How a character is written: with a short escape, as it is, or with the escapes of its units. -/
theorem escapeChar_cases (c : Char) :
    (∃ d, escapeChar c = ['\\', d] ∧ shortEscape? d = some (number c) ∧ number c < 0x10000) ∨
      (escapeChar c = [c] ∧ c ≠ '"' ∧ c ≠ '\\' ∧ 0x20 ≤ c.toNat ∧ number c < 0x7F) ∨
      (escapeChar c = unitEscape (number c) ∧ number c < 0x10000) ∨
      (escapeChar c = unitEscape (0xD800 + (number c - 0x10000) / 0x400) ++
        unitEscape (0xDC00 + (number c - 0x10000) % 0x400) ∧ 0x10000 ≤ number c) := by
  generalize hout : escapeChar c = out
  simp only [escapeChar, beq_iff_eq, Bool.and_eq_true, decide_eq_true_eq] at hout
  split_ifs at hout with hquote hback ha hd h9 hc h8 hplain hbasic
  all_goals subst hout
  · exact Or.inl ⟨c, rfl, by rw [eq_of_number (d := '"') (by decide) hquote]; rfl, by omega⟩
  · exact Or.inl ⟨c, rfl, by rw [eq_of_number (d := '\\') (by decide) hback]; rfl, by omega⟩
  · exact Or.inl ⟨'n', rfl, by rw [ha]; rfl, by omega⟩
  · exact Or.inl ⟨'r', rfl, by rw [hd]; rfl, by omega⟩
  · exact Or.inl ⟨'t', rfl, by rw [h9]; rfl, by omega⟩
  · exact Or.inl ⟨'f', rfl, by rw [hc]; rfl, by omega⟩
  · exact Or.inl ⟨'b', rfl, by rw [h8]; rfl, by omega⟩
  · have hneq : c ≠ '"' := fun h => hquote (by rw [h]; rfl)
    have hneb : c ≠ '\\' := fun h => hback (by rw [h]; rfl)
    have hcontrol : 0x20 ≤ c.toNat := by
      rcases number_cases c with ⟨_, hlow, _⟩ | ⟨_, hc, _⟩ <;> omega
    exact Or.inr (Or.inl ⟨rfl, hneq, hneb, hcontrol, hplain.2⟩)
  · exact Or.inr (Or.inr (Or.inl ⟨rfl, hbasic⟩))
  · exact Or.inr (Or.inr (Or.inr ⟨rfl, by omega⟩))

/-- **An escaped character is read as its units.** -/
theorem readUnits_escapeChar (start : Nat) (c : Char) {rest : List Char} (hrest : rest ≠ []) :
    readUnits start (escapeChar c ++ rest) =
      (unitsOf c).foldr consUnit (readUnits start rest) := by
  have hlt := number_lt c
  have hone (h : number c < 0x10000) : unitsOf c = [number c] := if_pos h
  rcases escapeChar_cases c with ⟨d, h, hd, hn⟩ | ⟨h, hquote, hback, hlow, hhigh⟩ | ⟨h, hn⟩ |
    ⟨h, hn⟩
  · rw [h, hone hn]
    exact readUnits_shortEscape start hd rest
  · rw [h, hone (by omega)]
    exact readUnits_plain start hquote hback hlow rest
  · rw [h, hone hn]
    exact readUnits_unitEscape start hn hrest
  · have htwo : unitsOf c = [0xD800 + (number c - 0x10000) / 0x400,
        0xDC00 + (number c - 0x10000) % 0x400] := if_neg (by omega)
    rw [h, htwo, List.append_assoc, readUnits_unitEscape start (by omega) (by simp [unitEscape]),
      readUnits_unitEscape start (by omega) hrest]
    rfl

/-- **An escaped text is read as its units**, up to the quote behind it. -/
theorem readUnits_escaped (start : Nat) (s rest : List Char) :
    readUnits start (s.flatMap escapeChar ++ '"' :: rest) = .ok (units s, rest) := by
  have hcons (u : List Nat) (v : List Nat) :
      u.foldr consUnit (.ok (v, rest)) = .ok (u ++ v, rest) := by
    induction u with
    | nil => rfl
    | cons n u ih =>
      rw [List.foldr_cons, ih]
      rfl
  induction s with
  | nil =>
    rw [List.flatMap_nil, List.nil_append, readUnits]
    rfl
  | cons c s ih =>
    rw [List.flatMap_cons, List.append_assoc, readUnits_escapeChar start c (by simp), ih, hcons,
      units_cons]

/-! ## 3. Split pairs -/

/-- A text with all its split pairs joined. -/
def joined (s : String) : String := String.ofList (joinUnits (units s.toList))

/-- A unit that is not half of a pair with the next one is a character of its own. -/
theorem joinUnits_cons {m : Nat} {u : List Nat}
    (h : ∀ n ∈ u.head?, isHigh m = true → isLow n = false) :
    joinUnits (m :: u) = ofNumber m :: joinUnits u := by
  cases u with
  | nil => rw [joinUnits, joinUnits]
  | cons n u =>
    have hn : ¬(isHigh m && isLow n) = true := by
      rw [Bool.and_eq_true]
      exact fun hpair => Bool.false_ne_true ((h n rfl hpair.1).symm.trans hpair.2)
    rw [joinUnits, if_neg hn]

/-- What is joined begins with a second half only where the units do. -/
theorem isLow_of_head_joinUnits {u : List Nat} {d : Char} (hd : d ∈ (joinUnits u).head?)
    (hlow : isLow (number d) = true) : ∃ n ∈ u.head?, isLow n = true := by
  have hfirst {n : Nat} (h : ofNumber n = d) : isLow n = true := by
    rw [← isLow_number_ofNumber, h, hlow]
  match u with
  | [] => cases hd
  | [n] => exact ⟨n, rfl, hfirst (Option.some.inj hd)⟩
  | m :: n :: rest =>
    rw [joinUnits] at hd
    split at hd
    · have hpair := isLow_iff.mp (hfirst (Option.some.inj hd))
      unfold pairNumber at hpair
      omega
    · exact ⟨m, rfl, hfirst (Option.some.inj hd)⟩

/-- **Where units are joined, no split pair is left.** -/
theorem unsplit_joinUnits (u : List Nat) : Unsplit (joinUnits u) := by
  fun_induction joinUnits u with
  | case1 => exact .nil
  | case2 n => exact .singleton _
  | case3 m n rest hpair ih =>
    refine ih.cons fun d _ h => ?_
    have hhigh := isHigh_iff.mp ((isHigh_number_ofNumber _).symm.trans h.1)
    unfold pairNumber at hhigh
    omega
  | case4 m n rest hnone ih =>
    refine ih.cons fun d hd h => hnone ?_
    obtain ⟨k, hk, hlow⟩ := isLow_of_head_joinUnits hd h.2
    obtain rfl : n = k := Option.some.inj hk
    rw [Bool.and_eq_true, hlow, ← isHigh_number_ofNumber, h.1]
    exact ⟨rfl, rfl⟩

/-- The units of a text begin with a second half only if the text does. -/
theorem isLow_of_head_units {s : List Char} {n : Nat} (hn : n ∈ (units s).head?)
    (hlow : isLow n = true) : ∃ d ∈ s.head?, isLow (number d) = true := by
  cases s with
  | nil => cases hn
  | cons d s =>
    have hlt := number_lt d
    refine ⟨d, rfl, ?_⟩
    rw [units_cons, unitsOf, unitsOfNumber] at hn
    split at hn
    · rw [Option.some.inj hn, hlow]
    · have hfirst := Option.some.inj hn
      rw [isLow_iff] at hlow
      omega

/-- **The units of a text without split pairs are joined to the text.** -/
theorem joinUnits_units {s : List Char} (h : Unsplit s) : joinUnits (units s) = s := by
  induction s with
  | nil => rfl
  | cons c s ih =>
    have hlt := number_lt c
    obtain ⟨hnext, hrest⟩ := List.isChain_cons.mp h
    rw [units_cons, unitsOf, unitsOfNumber]
    by_cases hn : number c < 0x10000
    · have hhead : ∀ n ∈ (units s).head?, isHigh (number c) = true → isLow n = false := by
        intro n hmem hhigh
        by_contra hlow
        obtain ⟨d, hd, hlow'⟩ := isLow_of_head_units hmem (Bool.not_eq_false _ ▸ hlow)
        exact hnext d hd ⟨hhigh, hlow'⟩
      rw [if_pos hn, List.singleton_append, joinUnits_cons hhead, ofNumber_number, ih hrest]
    · have hpair : (isHigh (0xD800 + (number c - 0x10000) / 0x400) &&
          isLow (0xDC00 + (number c - 0x10000) % 0x400)) = true := by
        rw [Bool.and_eq_true, isHigh_iff, isLow_iff]
        omega
      have hnumber : pairNumber (0xD800 + (number c - 0x10000) / 0x400)
          (0xDC00 + (number c - 0x10000) % 0x400) = number c := by
        unfold pairNumber
        omega
      rw [if_neg hn, List.cons_append, List.singleton_append, joinUnits, if_pos hpair, hnumber,
        ofNumber_number, ih hrest]

/-- A text is left as it is exactly if it has no split pairs. -/
theorem joined_eq_self_iff {s : String} : joined s = s ↔ Unsplit s.toList := by
  constructor
  · intro h
    rw [← h, joined, String.toList_ofList]
    exact unsplit_joinUnits _
  · intro h
    rw [joined, joinUnits_units h, String.ofList_toList]

/-- Units that are joined to characters below the halves are no halves. -/
theorem lt_of_joinUnits {u : List Nat} (hu : ∀ n ∈ u, n < 0x10000)
    (h : ∀ c ∈ joinUnits u, c.toNat < 0xD800) : ∀ n ∈ u, n < 0xD800 := by
  fun_induction joinUnits u with
  | case1 => exact nofun
  | case2 n =>
    rw [List.forall_mem_singleton] at hu h ⊢
    exact eq_toNat_ofNumber (by omega) h ▸ h
  | case3 m n rest hpair ih =>
    rw [Bool.and_eq_true, isHigh_iff, isLow_iff] at hpair
    have hchar := (List.forall_mem_cons.mp h).1
    have hnumber := eq_toNat_ofNumber (by unfold pairNumber; omega) hchar
    unfold pairNumber at hnumber hchar
    omega
  | case4 m n rest hnone ih =>
    obtain ⟨hm, hrest⟩ := List.forall_mem_cons.mp hu
    obtain ⟨hc, hmore⟩ := List.forall_mem_cons.mp h
    exact List.forall_mem_cons.mpr ⟨eq_toNat_ofNumber (by omega) hc ▸ hc, ih hrest hmore⟩

/-- **A text that is joined to characters below the halves is left as it is.** -/
theorem eq_of_joined_eq {s word : String} (hword : ∀ c ∈ word.toList, c.toNat < 0xD800)
    (h : joined s = word) : s = word := by
  have hbelow : ∀ n ∈ units s.toList, n < 0xD800 := by
    refine lt_of_joinUnits units_lt ?_
    rwa [← h, joined, String.toList_ofList] at hword
  have hnone : ∀ c ∈ s.toList, isHalf c = false := by
    intro c hc
    rcases number_cases c with ⟨hhalf, hhigh, _⟩ | ⟨hnot, _⟩
    · exact absurd (hbelow _ (number_mem_units hc hhalf)) (by omega)
    · exact hnot
  rw [← h, joined_eq_self_iff.mpr (unsplit_of_forall hnone)]

/-! ## 4. Texts -/

theorem toList_escaped (s : String) :
    (escaped s).toList = '"' :: (s.toList.flatMap escapeChar ++ ['"']) := by
  rw [escaped, String.toList_ofList]
  rfl

/-- **A text between quotes is read back**, whatever follows it, with its split pairs joined. -/
theorem readText_escaped (s : String) (rest : List Char) :
    readText (s.toList.flatMap escapeChar ++ '"' :: rest) = .ok (joined s, rest) := by
  rw [readText, readUnits_escaped]
  rfl

end SchemaRecords.Json

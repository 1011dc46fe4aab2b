import SchemaRecords.Proofs.Document.Entries
import SchemaRecords.Text.Utf8

/-!
# Octets and the texts they encode

* `next_encode`, `startsWith_of_next` -- a character is read from the front of a run of octets
  exactly where these start with its own, and there are as many as the lead octet asks for;
* `decode_eq_ok` -- octets are read as a text exactly if they are those of the text;
* `decodeLossy_encode` -- and nothing is replaced in these.
-/

namespace SchemaRecords.Text.Utf8

open String (utf8EncodeChar)

/-! ## 1. Numbers of characters -/

/-- The numbers of characters: those of surrogates are left out. -/
theorem toNat_cases (c : Char) :
    c.toNat < 0xD800 ∨ 0xDFFF < c.toNat ∧ c.toNat < 0x110000 := by
  have h : c.toNat.isValidChar := c.valid
  unfold Nat.isValidChar at h
  omega

theorem toNat_ofNat {n : Nat} (h : n < 0xD800 ∨ 0xDFFF < n ∧ n < 0x110000) :
    (Char.ofNat n).toNat = n := by
  have hv : n.isValidChar := by
    unfold Nat.isValidChar
    omega
  rw [Char.ofNat, dif_pos hv]
  rfl

theorem toNat_octet {n : Nat} (h : n < 256) : (UInt8.ofNat n).toNat = n := by
  rw [UInt8.toNat_ofNat']
  omega

theorem octet_eq {b : UInt8} {n : Nat} (h : b.toNat = n) : b = UInt8.ofNat n := by
  rw [← h, UInt8.ofNat_toNat]

/-! ## 2. One character -/

/-- The octets of a character by its number. -/
theorem encodeChar_cases (c : Char) :
    (c.toNat ≤ 0x7F ∧ utf8EncodeChar c = [UInt8.ofNat c.toNat]) ∨
    (0x7F < c.toNat ∧ c.toNat ≤ 0x7FF ∧ utf8EncodeChar c =
      [UInt8.ofNat (c.toNat / 64 % 32 + 192), UInt8.ofNat (c.toNat % 64 + 128)]) ∨
    (0x7FF < c.toNat ∧ c.toNat ≤ 0xFFFF ∧ utf8EncodeChar c =
      [UInt8.ofNat (c.toNat / 4096 % 16 + 224), UInt8.ofNat (c.toNat / 64 % 64 + 128),
        UInt8.ofNat (c.toNat % 64 + 128)]) ∨
    (0xFFFF < c.toNat ∧ utf8EncodeChar c =
      [UInt8.ofNat (c.toNat / 262144 % 8 + 240), UInt8.ofNat (c.toNat / 4096 % 64 + 128),
        UInt8.ofNat (c.toNat / 64 % 64 + 128), UInt8.ofNat (c.toNat % 64 + 128)]) := by
  unfold utf8EncodeChar
  simp only [Char.toNat]
  split
  · exact Or.inl ⟨by assumption, rfl⟩
  · split
    · exact Or.inr (Or.inl ⟨by omega, by assumption, rfl⟩)
    · split
      · exact Or.inr (Or.inr (Or.inl ⟨by omega, by assumption, rfl⟩))
      · exact Or.inr (Or.inr (Or.inr ⟨by omega, rfl⟩))

/-- What a lead octet asks for, by the number of octets behind it. -/
theorem demand_two {lead : Nat} (h : 0xC2 ≤ lead) (h' : lead < 0xE0) :
    demand lead = some (0x80, 0xBF, 0) := by
  simp [demand, show ¬lead < 0xC2 by omega, h']

theorem demand_three {lead : Nat} (h : 0xE0 ≤ lead) (h' : lead < 0xF0) :
    demand lead = some (if lead = 0xE0 then 0xA0 else 0x80, if lead = 0xED then 0x9F else 0xBF,
      1) := by
  unfold demand
  rw [if_neg (by omega), if_neg (by omega)]
  by_cases h0 : lead = 0xE0
  · subst h0
    rfl
  · by_cases hd : lead = 0xED
    · subst hd
      rfl
    · simp [h0, hd, h']

theorem demand_four {lead : Nat} (h : 0xF0 ≤ lead) (h' : lead < 0xF5) :
    demand lead = some (if lead = 0xF0 then 0x90 else 0x80, if lead = 0xF4 then 0x8F else 0xBF,
      2) := by
  unfold demand
  rw [if_neg (by omega), if_neg (by omega)]
  by_cases h0 : lead = 0xF0
  · subst h0
    rfl
  · by_cases h4 : lead = 0xF4
    · subst h4
      rfl
    · have hlt : lead < 0xF4 := by omega
      simp [h0, h4, hlt, show lead ≠ 0xE0 by omega, show lead ≠ 0xED by omega,
        show ¬lead < 0xF0 by omega]

theorem demand_none {lead : Nat} (h : lead < 0xC2 ∨ 0xF5 ≤ lead) : demand lead = none := by
  rcases h with h | h
  · simp [demand, h]
  · simp [demand, show ¬lead < 0xC2 by omega, show ¬lead < 0xE0 by omega,
      show lead ≠ 0xE0 by omega, show lead ≠ 0xED by omega, show ¬lead < 0xF0 by omega,
      show lead ≠ 0xF0 by omega, show ¬lead < 0xF4 by omega, show lead ≠ 0xF4 by omega]

section continuation

variable {value length low high more : Nat} {rest : List UInt8}

theorem continuation_last {b : UInt8} (hlow : low ≤ b.toNat) (hhigh : b.toNat ≤ high) :
    continuation value length low high 0 (b :: rest) =
      .character (Char.ofNat (value * 64 + b.toNat % 64)) (length + 1) := by
  simp [continuation, hlow, hhigh]

theorem continuation_more {b : UInt8} (hlow : low ≤ b.toNat) (hhigh : b.toNat ≤ high) :
    continuation value length low high (more + 1) (b :: rest) =
      continuation (value * 64 + b.toNat % 64) (length + 1) 0x80 0xBF more rest := by
  simp [continuation, hlow, hhigh]

/-- Where a character is read, there is an octet between the bounds. -/
theorem exists_of_continuation {c : Char} {n : Nat}
    (h : continuation value length low high more rest = .character c n) :
    ∃ b tail, rest = b :: tail ∧ low ≤ b.toNat ∧ b.toNat ≤ high := by
  cases rest with
  | nil =>
    unfold continuation at h
    cases h
  | cons b tail =>
    refine ⟨b, tail, rfl, ?_⟩
    by_contra hb
    have hb' : (decide (low ≤ b.toNat) && decide (b.toNat ≤ high)) = false := by
      simpa using hb
    cases more <;> simp [continuation, hb'] at h

end continuation

/-- The octets of a character are read as the character. -/
theorem next_encode (c : Char) (rest : List UInt8) :
    ∃ b more, utf8EncodeChar c = b :: more ∧
      next b (more ++ rest) = .character c (more.length + 1) := by
  have hc := toNat_cases c
  have hback {n : Nat} (h : n = c.toNat) : Char.ofNat n = c := by rw [h, Char.ofNat_toNat]
  rcases encodeChar_cases c with ⟨h, e⟩ | ⟨h, h', e⟩ | ⟨h, h', e⟩ | ⟨h, e⟩
  · refine ⟨_, _, e, ?_⟩
    have hb := toNat_octet (show c.toNat < 256 by omega)
    rw [next, hb, if_pos (by omega), hback rfl]
    rfl
  · refine ⟨_, _, e, ?_⟩
    have hb := toNat_octet (show c.toNat / 64 % 32 + 192 < 256 by omega)
    have hb₁ := toNat_octet (show c.toNat % 64 + 128 < 256 by omega)
    rw [next, hb, if_neg (by omega), demand_two (by omega) (by omega)]
    dsimp only [List.cons_append, List.nil_append]
    rw [continuation_last (by omega) (by omega), leadBits, if_pos (by omega), hback (by omega)]
    rfl
  · refine ⟨_, _, e, ?_⟩
    have hb := toNat_octet (show c.toNat / 4096 % 16 + 224 < 256 by omega)
    have hb₁ := toNat_octet (show c.toNat / 64 % 64 + 128 < 256 by omega)
    have hb₂ := toNat_octet (show c.toNat % 64 + 128 < 256 by omega)
    rw [next, hb, if_neg (by omega), demand_three (by omega) (by omega)]
    dsimp only [List.cons_append, List.nil_append]
    rw [continuation_more (by split <;> omega) (by split <;> omega),
      continuation_last (by omega) (by omega), leadBits, if_neg (by omega), if_pos (by omega),
      hback (by omega)]
    rfl
  · refine ⟨_, _, e, ?_⟩
    have hb := toNat_octet (show c.toNat / 262144 % 8 + 240 < 256 by omega)
    have hb₁ := toNat_octet (show c.toNat / 4096 % 64 + 128 < 256 by omega)
    have hb₂ := toNat_octet (show c.toNat / 64 % 64 + 128 < 256 by omega)
    have hb₃ := toNat_octet (show c.toNat % 64 + 128 < 256 by omega)
    rw [next, hb, if_neg (by omega), demand_four (by omega) (by omega)]
    dsimp only [List.cons_append, List.nil_append]
    rw [continuation_more (by split <;> omega) (by split <;> omega),
      continuation_more (by omega) (by omega), continuation_last (by omega) (by omega), leadBits,
      if_neg (by omega), if_neg (by omega), hback (by omega)]
    rfl

/-- The octets of a character, from their numbers. -/
theorem encodeChar_one {c : Char} {b : UInt8} (h : c.toNat ≤ 0x7F) (hb : b.toNat = c.toNat) :
    utf8EncodeChar c = [b] := by
  rcases encodeChar_cases c with ⟨_, e⟩ | ⟨_, _, _⟩ | ⟨_, _, _⟩ | ⟨_, _⟩
  · rw [e, ← octet_eq hb]
  all_goals omega

theorem encodeChar_two {c : Char} {b b₁ : UInt8} (h : 0x7F < c.toNat) (h' : c.toNat ≤ 0x7FF)
    (hb : b.toNat = c.toNat / 64 % 32 + 192) (hb₁ : b₁.toNat = c.toNat % 64 + 128) :
    utf8EncodeChar c = [b, b₁] := by
  rcases encodeChar_cases c with ⟨_, _⟩ | ⟨_, _, e⟩ | ⟨_, _, _⟩ | ⟨_, _⟩
  rotate_left
  · rw [e, ← octet_eq hb, ← octet_eq hb₁]
  all_goals omega

theorem encodeChar_three {c : Char} {b b₁ b₂ : UInt8} (h : 0x7FF < c.toNat)
    (h' : c.toNat ≤ 0xFFFF) (hb : b.toNat = c.toNat / 4096 % 16 + 224)
    (hb₁ : b₁.toNat = c.toNat / 64 % 64 + 128) (hb₂ : b₂.toNat = c.toNat % 64 + 128) :
    utf8EncodeChar c = [b, b₁, b₂] := by
  rcases encodeChar_cases c with ⟨_, _⟩ | ⟨_, _, _⟩ | ⟨_, _, e⟩ | ⟨_, _⟩
  rotate_left 2
  · rw [e, ← octet_eq hb, ← octet_eq hb₁, ← octet_eq hb₂]
  all_goals omega

theorem encodeChar_four {c : Char} {b b₁ b₂ b₃ : UInt8} (h : 0xFFFF < c.toNat)
    (hb : b.toNat = c.toNat / 262144 % 8 + 240) (hb₁ : b₁.toNat = c.toNat / 4096 % 64 + 128)
    (hb₂ : b₂.toNat = c.toNat / 64 % 64 + 128) (hb₃ : b₃.toNat = c.toNat % 64 + 128) :
    utf8EncodeChar c = [b, b₁, b₂, b₃] := by
  rcases encodeChar_cases c with ⟨_, _⟩ | ⟨_, _, _⟩ | ⟨_, _, _⟩ | ⟨_, e⟩
  rotate_left 3
  · rw [e, ← octet_eq hb, ← octet_eq hb₁, ← octet_eq hb₂, ← octet_eq hb₃]
  all_goals omega

/-- An octet and those after it start with the octets of a character, of which there are so many. -/
def StartsWith (b : UInt8) (rest : List UInt8) (c : Char) (length : Nat) : Prop :=
  ∃ more tail, utf8EncodeChar c = b :: more ∧ rest = more ++ tail ∧ length = more.length + 1

section startsWith

variable {b : UInt8} {rest : List UInt8} {c : Char} {n : Nat}

/-- What is read of one octet behind the lead is a character of two. -/
theorem startsWith_two (hb : 0xC2 ≤ b.toNat) (hb' : b.toNat < 0xE0)
    (h : continuation (b.toNat % 32) 1 0x80 0xBF 0 rest = .character c n) :
    StartsWith b rest c n := by
  obtain ⟨b₁, tail, rfl, hl₁, hh₁⟩ := exists_of_continuation h
  rw [continuation_last hl₁ hh₁] at h
  cases h
  have hn := toNat_ofNat (n := b.toNat % 32 * 64 + b₁.toNat % 64) (by omega)
  exact ⟨[b₁], tail, encodeChar_two (by omega) (by omega) (by omega) (by omega), rfl, rfl⟩

/-- What is read of two is a character of three, neither a shorter one nor a surrogate. -/
theorem startsWith_three (hb : 0xE0 ≤ b.toNat) (hb' : b.toNat < 0xF0)
    (h : continuation (b.toNat % 16) 1 (if b.toNat = 0xE0 then 0xA0 else 0x80)
      (if b.toNat = 0xED then 0x9F else 0xBF) 1 rest = .character c n) :
    StartsWith b rest c n := by
  obtain ⟨b₁, rest₁, rfl, hl₁, hh₁⟩ := exists_of_continuation h
  rw [continuation_more hl₁ hh₁] at h
  obtain ⟨b₂, tail, rfl, hl₂, hh₂⟩ := exists_of_continuation h
  rw [continuation_last hl₂ hh₂] at h
  cases h
  -- the bounds of the second octet keep out short numbers and those of surrogates
  have hlow : b.toNat = 0xE0 → 0xA0 ≤ b₁.toNat := fun e => by simpa [e] using hl₁
  have hhigh : b.toNat = 0xED → b₁.toNat ≤ 0x9F := fun e => by simpa [e] using hh₁
  have hmin : 0x80 ≤ b₁.toNat := by split at hl₁ <;> omega
  have hmax : b₁.toNat ≤ 0xBF := by split at hh₁ <;> omega
  have hn := toNat_ofNat
    (n := (b.toNat % 16 * 64 + b₁.toNat % 64) * 64 + b₂.toNat % 64) (by omega)
  exact ⟨[b₁, b₂], tail,
    encodeChar_three (by omega) (by omega) (by omega) (by omega) (by omega), rfl, rfl⟩

/-- What is read of three is a character of four, neither a shorter one nor one behind the last. -/
theorem startsWith_four (hb : 0xF0 ≤ b.toNat) (hb' : b.toNat < 0xF5)
    (h : continuation (b.toNat % 8) 1 (if b.toNat = 0xF0 then 0x90 else 0x80)
      (if b.toNat = 0xF4 then 0x8F else 0xBF) 2 rest = .character c n) :
    StartsWith b rest c n := by
  obtain ⟨b₁, rest₁, rfl, hl₁, hh₁⟩ := exists_of_continuation h
  rw [continuation_more hl₁ hh₁] at h
  obtain ⟨b₂, rest₂, rfl, hl₂, hh₂⟩ := exists_of_continuation h
  rw [continuation_more hl₂ hh₂] at h
  obtain ⟨b₃, tail, rfl, hl₃, hh₃⟩ := exists_of_continuation h
  rw [continuation_last hl₃ hh₃] at h
  cases h
  have hlow : b.toNat = 0xF0 → 0x90 ≤ b₁.toNat := fun e => by simpa [e] using hl₁
  have hhigh : b.toNat = 0xF4 → b₁.toNat ≤ 0x8F := fun e => by simpa [e] using hh₁
  have hmin : 0x80 ≤ b₁.toNat := by split at hl₁ <;> omega
  have hmax : b₁.toNat ≤ 0xBF := by split at hh₁ <;> omega
  have hn := toNat_ofNat
    (n := ((b.toNat % 8 * 64 + b₁.toNat % 64) * 64 + b₂.toNat % 64) * 64 + b₃.toNat % 64)
    (by omega)
  exact ⟨[b₁, b₂, b₃], tail,
    encodeChar_four (by omega) (by omega) (by omega) (by omega) (by omega), rfl, rfl⟩

/-- **A character is read only where the octets start with its own.** -/
theorem startsWith_of_next (h : next b rest = .character c n) : StartsWith b rest c n := by
  have hlead := b.toNat_lt
  unfold next at h
  by_cases h1 : b.toNat < 0x80
  · rw [if_pos h1] at h
    cases h
    have hn := toNat_ofNat (n := b.toNat) (by omega)
    exact ⟨[], rest, encodeChar_one (by omega) hn.symm, rfl, rfl⟩
  rw [if_neg h1] at h
  by_cases hnone : b.toNat < 0xC2 ∨ 0xF5 ≤ b.toNat
  · rw [demand_none hnone] at h
    cases h
  by_cases h2 : b.toNat < 0xE0
  · rw [demand_two (by omega) h2, leadBits, if_pos h2] at h
    exact startsWith_two (by omega) h2 h
  by_cases h3 : b.toNat < 0xF0
  · rw [demand_three (by omega) h3, leadBits, if_neg h2, if_pos h3] at h
    exact startsWith_three (by omega) h3 h
  · rw [demand_four (by omega) (by omega), leadBits, if_neg h2, if_neg h3] at h
    exact startsWith_four (by omega) (by omega) h

end startsWith

/-! ## 3. Texts -/

theorem decodeFrom_skip (position : Nat) (front rest : List UInt8) :
    decodeFrom position front.length (front ++ rest) =
      decodeFrom (position + front.length) 0 rest := by
  induction front generalizing position with
  | nil => rfl
  | cons b front ih =>
    rw [List.length_cons, List.cons_append, decodeFrom, ih, Nat.add_right_comm, Nat.add_assoc]

/-- The characters of the octets of some characters are these. -/
theorem decodeFrom_encode (position : Nat) (s : List Char) :
    decodeFrom position 0 (s.flatMap utf8EncodeChar) = .ok s := by
  induction s generalizing position with
  | nil => rfl
  | cons c s ih =>
    obtain ⟨b, more, e, h⟩ := next_encode c (s.flatMap utf8EncodeChar)
    rw [List.flatMap_cons, e, List.cons_append, decodeFrom, h]
    dsimp only
    rw [Nat.add_sub_cancel, decodeFrom_skip, ih]
    rfl

theorem eq_encode_of_decodeFrom {position : Nat} {octets : List UInt8} {s : List Char}
    (h : decodeFrom position 0 octets = .ok s) : octets = s.flatMap utf8EncodeChar := by
  induction hn : octets.length using Nat.strong_induction_on generalizing position octets s with
  | _ n ih =>
    cases octets with
    | nil =>
      cases h
      rfl
    | cons b rest =>
      rw [decodeFrom] at h
      cases hb : next b rest with
      | malformed length reason =>
        rw [hb] at h
        cases h
      | character c length =>
        obtain ⟨more, tail, e, rfl, rfl⟩ := startsWith_of_next hb
        rw [hb] at h
        dsimp only at h
        rw [Nat.add_sub_cancel, decodeFrom_skip] at h
        obtain ⟨s', hs, h⟩ := bind_eq_ok.mp h
        cases h
        rw [List.flatMap_cons, e, ← ih _ ?_ hs rfl]
        · rfl
        · simp only [← hn, List.length_cons, List.length_append]
          omega

/-- **Octets are read as a text exactly if they are those of the text.** -/
theorem decode_eq_ok {octets : List UInt8} {s : String} :
    decode octets = .ok s ↔ encode s = octets := by
  unfold decode encode
  constructor
  · intro h
    cases hd : decodeFrom 0 0 octets with
    | error fault =>
      rw [hd] at h
      cases h
    | ok l =>
      rw [hd] at h
      cases h
      rw [String.toList_ofList]
      exact (eq_encode_of_decodeFrom hd).symm
  · rintro rfl
    rw [decodeFrom_encode]
    exact congrArg Except.ok String.ofList_toList

theorem decodeLossyFrom_skip (front rest : List UInt8) :
    decodeLossyFrom front.length (front ++ rest) = decodeLossyFrom 0 rest := by
  induction front with
  | nil => rfl
  | cons b front ih => rw [List.length_cons, List.cons_append, decodeLossyFrom, ih]

theorem decodeLossyFrom_encode (s : List Char) :
    decodeLossyFrom 0 (s.flatMap utf8EncodeChar) = s := by
  induction s with
  | nil => rfl
  | cons c s ih =>
    obtain ⟨b, more, e, h⟩ := next_encode c (s.flatMap utf8EncodeChar)
    rw [List.flatMap_cons, e, List.cons_append, decodeLossyFrom, h]
    dsimp only
    rw [Nat.add_sub_cancel, decodeLossyFrom_skip, ih]

/-- In the octets of a text nothing is replaced. -/
theorem decodeLossy_encode (s : String) : decodeLossy (encode s) = s := by
  rw [decodeLossy, encode, decodeLossyFrom_encode, String.ofList_toList]

/-- Texts with the same octets are the same. -/
theorem encode_inj {s t : String} : encode s = encode t ↔ s = t := by
  refine ⟨fun h => ?_, fun h => h ▸ rfl⟩
  exact Except.ok.inj ((decode_eq_ok.mpr rfl).symm.trans (decode_eq_ok.mpr h.symm))

end SchemaRecords.Text.Utf8

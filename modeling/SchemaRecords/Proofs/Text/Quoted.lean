import SchemaRecords.Proofs.Json.Text
import SchemaRecords.Text.Quoted

/-!
# Quoted octets are read back

* `readOctet?` -- the first octet between quotes, and what follows it;
* `readOctet?_quoteOctet` -- it is the octet that was quoted;
* `quotedOctets_inj` -- **octets are quoted as no others are**.
-/

namespace SchemaRecords.Text

open Json

/-- The number of the octet at the front, between quotes, and what follows it. -/
def readOctet? : List Char → Option (Nat × List Char)
  | [] => none
  | '\\' :: 'x' :: a :: b :: rest => (ofHex? [a, b]).map (·, rest)
  | '\\' :: c :: rest => some ((shortEscape? c).getD c.toNat, rest)
  | c :: rest => some (c.toNat, rest)

/-- An octet that is shown by two digits is the number of them. -/
theorem readOctet?_hex {n : Nat} (hn : n < 0x100) (rest : List Char) :
    readOctet? ('\\' :: 'x' :: hexFixed 2 n ++ rest) = some (n, rest) := by
  have hvalue := ofHex?_hexFixed 2 (n := n) (by omega)
  rw [show hexFixed 2 n = [hexDigit (n / 16 % 16), hexDigit (n % 16)] from rfl] at hvalue ⊢
  rw [List.cons_append, List.cons_append, List.cons_append, List.cons_append, List.nil_append,
    readOctet?, hvalue, Option.map_some]

theorem readOctet?_plain {c : Char} (hc : c ≠ '\\') (rest : List Char) :
    readOctet? (c :: rest) = some (c.toNat, rest) := by
  rw [readOctet?] <;> simp [hc]

/-- **The first octet is read as it was quoted.** -/
theorem readOctet?_quoteOctet {mark : Char} (hmark : mark = apostrophe ∨ mark = doubleQuote)
    (b : UInt8) (rest : List Char) :
    readOctet? (quoteOctet mark b ++ rest) = some (b.toNat, rest) := by
  have hb : b.toNat < 0x100 := b.toNat_lt
  unfold quoteOctet
  split
  · rename_i hbasic
    have hchar : (Char.ofNat b.toNat).toNat = b.toNat := toNat_ofNat_eq (by omega)
    have hnumber : number (Char.ofNat b.toNat) = b.toNat := by
      rcases number_cases (Char.ofNat b.toNat) with ⟨_, _, _, hc⟩ | ⟨_, hc, _⟩
      · unfold halfShift at hc
        omega
      · rw [hc, hchar]
    have heq {c : Char} (h : (Char.ofNat b.toNat == c) = true) : b.toNat = c.toNat := by
      rw [← eq_of_beq h, hchar]
    unfold quoteChar
    split_ifs with hself hn hr ht hprint hhex
    · rw [Bool.or_eq_true] at hself
      rcases hself with h | h
      · rcases hmark with rfl | rfl <;> rw [eq_of_beq h, heq h] <;> rfl
      · rw [eq_of_beq h, heq h]
        rfl
    · rw [heq hn]
      rfl
    · rw [heq hr]
      rfl
    · rw [heq ht]
      rfl
    · rw [Bool.or_eq_true, beq_iff_eq, beq_iff_eq, not_or] at hself
      rw [List.singleton_append, readOctet?_plain hself.2, hchar]
    · rw [hnumber]
      exact readOctet?_hex hb rest
    · rw [hnumber] at hhex
      exact absurd hb hhex
    · rw [hnumber] at hhex
      exact absurd hb hhex
  · exact readOctet?_hex hb rest

theorem quoteMark_cases (s : List Char) : quoteMark s = apostrophe ∨ quoteMark s = doubleQuote := by
  unfold quoteMark
  split
  · exact Or.inr rfl
  · exact Or.inl rfl

/-- Octets between marks are those of no others. -/
theorem flatMap_quoteOctet_inj {mark : Char} (hmark : mark = apostrophe ∨ mark = doubleQuote)
    {a b : List UInt8}
    (h : a.flatMap (quoteOctet mark) ++ [mark] = b.flatMap (quoteOctet mark) ++ [mark]) :
    a = b := by
  -- a mark alone is read to its end, an octet leaves the mark behind it
  have hend : readOctet? [mark] = some (mark.toNat, []) := by
    rcases hmark with rfl | rfl <;> rfl
  have hread (x : UInt8) (rest : List UInt8) :
      readOctet? ((x :: rest).flatMap (quoteOctet mark) ++ [mark]) =
        some (x.toNat, rest.flatMap (quoteOctet mark) ++ [mark]) := by
    rw [List.flatMap_cons, List.append_assoc, readOctet?_quoteOctet hmark]
  have hone (x : UInt8) (rest : List UInt8) :
      (x :: rest).flatMap (quoteOctet mark) ++ [mark] ≠ [mark] := by
    intro e
    have hread := hread x rest
    rw [e, hend] at hread
    exact List.append_ne_nil_of_right_ne_nil _ (List.cons_ne_nil mark [])
      (Prod.mk.inj (Option.some.inj hread)).2.symm
  induction a generalizing b with
  | nil =>
    cases b with
    | nil => rfl
    | cons y rest => exact absurd h.symm (hone y rest)
  | cons x more ih =>
    cases b with
    | nil => exact absurd h (hone x more)
    | cons y rest =>
      have hsame := (hread x more).symm.trans ((congrArg readOctet? h).trans (hread y rest))
      obtain ⟨hx, hrest⟩ := Prod.mk.inj (Option.some.inj hsame)
      rw [UInt8.toNat_inj.mp hx, ih hrest]

theorem toList_quotedOctets (octets : List UInt8) :
    ∃ mark, (mark = apostrophe ∨ mark = doubleQuote) ∧
      (quotedOctets octets).toList = 'b' :: mark :: (octets.flatMap (quoteOctet mark) ++ [mark]) :=
  ⟨_, quoteMark_cases _, String.toList_ofList⟩

/-- **Octets are quoted as no others are.** -/
theorem quotedOctets_inj {a b : List UInt8} (h : quotedOctets a = quotedOctets b) : a = b := by
  obtain ⟨mark, hmark, ha⟩ := toList_quotedOctets a
  obtain ⟨mark', _, hb⟩ := toList_quotedOctets b
  rw [h, hb] at ha
  obtain ⟨rfl, hoctets⟩ := List.cons.inj (List.cons.inj ha).2
  exact (flatMap_quoteOctet_inj hmark hoctets).symm

end SchemaRecords.Text

import Mathlib
import SchemaRecords.Number.Layout
import SchemaRecords.Number.Numeral
import SchemaRecords.Proofs.Number.Rounding

/-!
# Numerals of decimals

The text of a decimal is a numeral, whose parts give the decimal back.

* `Numeral`, `Numeral.text`, `Numeral.value` -- digits before and after the point and an exponent,
  the text of these parts, and the number they stand for;
* `Numeral.Proper` -- all digits are digits, and the part before the point starts with no zero but
  a lone one;
* `exists_numeral` -- **the text of a decimal is a proper numeral with its value**.
-/

namespace SchemaRecords.Number

open Double

/-! ## 1. Digits -/

theorem isDigit_eq (c : Char) : isDigit c = c.isDigit := by
  rw [Bool.eq_iff_iff]
  simp only [isDigit, Char.isDigit, Bool.and_eq_true, decide_eq_true_eq, ge_iff_le]
  rfl

theorem isDigit_of_mem_toDigits {n : Nat} {c : Char} (h : c ∈ Nat.toDigits 10 n) :
    isDigit c = true := by
  rw [isDigit_eq]
  exact Nat.isDigit_of_mem_toDigits (by norm_num) (by norm_num) h

@[simp] theorem zeros_zero : zeros 0 = [] := rfl

theorem zeros_succ (n : Nat) : zeros (n + 1) = '0' :: zeros n := List.replicate_succ

theorem zeros_succ' (n : Nat) : zeros (n + 1) = zeros n ++ ['0'] := List.replicate_succ'

@[simp] theorem length_zeros (n : Nat) : (zeros n).length = n := List.length_replicate

theorem isDigit_of_mem_zeros {n : Nat} {c : Char} (h : c ∈ zeros n) : isDigit c = true := by
  rw [List.eq_of_mem_replicate h]
  decide

theorem decimalValue_append (s t : List Char) :
    decimalValue (s ++ t) = decimalValue s * 10 ^ t.length + decimalValue t := by
  have hfold (n : Nat) (u : List Char) :
      u.foldl (fun n c => n * 10 + (c.toNat - 0x30)) n = n * 10 ^ u.length + decimalValue u := by
    induction u generalizing n with
    | nil => simp [decimalValue]
    | cons c u ih =>
      rw [decimalValue, List.foldl_cons, List.foldl_cons, ih, ih (0 * 10 + _), List.length_cons]
      ring
  rw [decimalValue, List.foldl_append, hfold]
  rfl

@[simp] theorem decimalValue_zeros (n : Nat) : decimalValue (zeros n) = 0 := by
  induction n with
  | zero => rfl
  | succ n ih =>
    rw [zeros_succ', decimalValue_append, ih]
    rfl

@[simp] theorem decimalValue_toDigits (n : Nat) : decimalValue (Nat.toDigits 10 n) = n := by
  have h : (fun (n : Nat) (c : Char) => n * 10 + (c.toNat - 0x30)) =
      fun n c => 10 * n + (c.toNat - '0'.toNat) := by
    funext n c
    rw [Nat.mul_comm]
    rfl
  rw [decimalValue, h]
  exact Nat.ofDigitChars_ten_toDigits

/-- The digits of a positive number do not start with a zero. -/
theorem exists_toDigits {n : Nat} (hn : 0 < n) : ∃ d ds, Nat.toDigits 10 n = d :: ds ∧ d ≠ '0' := by
  induction n using Nat.strong_induction_on with
  | _ n ih =>
    rcases Nat.lt_or_ge n 10 with hlt | hge
    · refine ⟨n.digitChar, [], Nat.toDigits_of_lt_base hlt, ?_⟩
      interval_cases n <;> decide
    · obtain ⟨d, ds, h, hd⟩ := ih (n / 10) (Nat.div_lt_self hn (by norm_num))
        (Nat.div_pos hge (by norm_num))
      exact ⟨d, ds ++ [(n % 10).digitChar],
        by rw [Nat.toDigits_of_base_le (by norm_num) hge, h, List.cons_append], hd⟩

/-- The significant digits of a positive number: they are not empty, start with no zero, and are
    followed by zeros alone. -/
theorem exists_significant {n : Nat} (hn : 0 < n) :
    ∃ d ds k, significant n = d :: ds ∧ d ≠ '0' ∧ Nat.toDigits 10 n = (d :: ds) ++ zeros k := by
  obtain ⟨d, ds, h, hd⟩ := exists_toDigits hn
  set back := (Nat.toDigits 10 n).reverse with hback
  obtain ⟨k, hk⟩ : ∃ k, back.takeWhile (· == '0') = zeros k := by
    refine ⟨_, List.eq_replicate_of_mem fun c hc => ?_⟩
    have hc := @List.mem_takeWhile_imp _ (· == '0') _ _ hc
    exact eq_of_beq hc
  have hsplit : Nat.toDigits 10 n = significant n ++ zeros k :=
    calc Nat.toDigits 10 n
        = (back.takeWhile (· == '0') ++ back.dropWhile (· == '0')).reverse := by
          rw [List.takeWhile_append_dropWhile, hback, List.reverse_reverse]
      _ = significant n ++ zeros k := by
          rw [List.reverse_append, hk, zeros, List.reverse_replicate]
          rfl
  cases hs : significant n with
  | nil =>
    rw [hs, List.nil_append] at hsplit
    have hfirst : d ∈ zeros k := by rw [← hsplit, h]; exact List.mem_cons_self
    exact absurd (List.eq_of_mem_replicate hfirst) hd
  | cons d' ds' =>
    rw [hs] at hsplit
    rw [h, List.cons_append, List.cons.injEq] at hsplit
    obtain ⟨rfl, htail⟩ := hsplit
    exact ⟨d, ds', k, rfl, hd, by rw [h, htail, List.cons_append]⟩

/-! ## 2. Numerals -/

/-- The parts of a numeral: the digits before the point and after it, and the exponent. -/
structure Numeral where
  whole : List Char
  fraction : List Char
  exponent : Option Int

namespace Numeral

/-- The text of a numeral; a point stands only before digits, and the mark of the exponent only
    before one. -/
def text (x : Numeral) : List Char :=
  x.whole ++ ((if x.fraction.isEmpty then [] else '.' :: x.fraction) ++
    x.exponent.elim [] fun power => 'e' :: exponentText power)

/-- The number that a numeral stands for. -/
def value (x : Numeral) : ℚ :=
  decimalValue (x.whole ++ x.fraction) * 10 ^ (x.exponent.getD 0 - x.fraction.length)

/-- The digits are digits, there are some before the point, and those start with no zero but a lone
    one. -/
structure Proper (x : Numeral) : Prop where
  digits : ∀ c ∈ x.whole ++ x.fraction, isDigit c = true
  start : x.whole = ['0'] ∨ ∃ d ds, x.whole = d :: ds ∧ d ≠ '0'

theorem Proper.exists_whole {x : Numeral} (h : x.Proper) : ∃ d ds, x.whole = d :: ds := by
  rcases h.start with h | ⟨d, ds, h, _⟩
  · exact ⟨'0', [], h⟩
  · exact ⟨d, ds, h⟩

/-- The value of a numeral whose digits are some digits between zeros. -/
theorem value_of_digits {x : Numeral} {digits : List Char} {a b : Nat}
    (h : x.whole ++ x.fraction = zeros a ++ (digits ++ zeros b)) :
    x.value = decimalValue digits * 10 ^ (b + x.exponent.getD 0 - x.fraction.length) := by
  rw [value, h, decimalValue_append, decimalValue_zeros, Nat.zero_mul, Nat.zero_add,
    decimalValue_append, decimalValue_zeros, Nat.add_zero, length_zeros, add_sub_assoc,
    zpow_add₀ (by norm_num), zpow_natCast]
  push_cast
  ring

end Numeral

/-! ## 3. The text of a decimal -/

section

variable {d : Char} {ds : List Char}

/-- The text is a proper numeral with a point, and of the value. -/
def IsPointed (text : List Char) (value : ℚ) : Prop :=
  ∃ x : Numeral, x.Proper ∧ text = x.text ∧ x.value = value ∧ x.fraction ≠ []

/-- All digits behind the point. -/
theorem isPointed_behind (hdigits : ∀ c ∈ d :: ds, isDigit c = true) (k : Nat) :
    IsPointed ('0' :: '.' :: zeros k ++ (d :: ds))
      (decimalValue (d :: ds) * 10 ^ (-(k : Int) - 1 - ds.length)) := by
  have hsplit : ['0'] ++ (zeros k ++ (d :: ds)) = zeros (k + 1) ++ ((d :: ds) ++ zeros 0) := by
    simp [zeros_succ]
  refine ⟨⟨['0'], zeros k ++ (d :: ds), none⟩, ⟨?_, Or.inl rfl⟩, ?_, ?_, ?_⟩
  · rw [List.forall_mem_append, List.forall_mem_append, List.forall_mem_singleton]
    exact ⟨by decide, fun c => isDigit_of_mem_zeros, hdigits⟩
  · simp [Numeral.text]
  · rw [Numeral.value_of_digits hsplit]
    congr 2
    simp only [Option.getD_none, List.length_append, length_zeros, List.length_cons]
    omega
  · simp

/-- All digits before the point, and a zero behind it. -/
theorem isPointed_before (hd : d ≠ '0') (hdigits : ∀ c ∈ d :: ds, isDigit c = true) (k : Nat) :
    IsPointed ((d :: ds) ++ zeros k ++ ['.', '0']) (decimalValue (d :: ds) * 10 ^ (k : Int)) := by
  have hsplit : ((d :: ds) ++ zeros k) ++ ['0'] = zeros 0 ++ ((d :: ds) ++ zeros (k + 1)) := by
    simp [zeros_succ']
  refine ⟨⟨(d :: ds) ++ zeros k, ['0'], none⟩, ⟨?_, Or.inr ⟨d, _, rfl, hd⟩⟩, ?_, ?_, ?_⟩
  · rw [List.forall_mem_append, List.forall_mem_append, List.forall_mem_singleton]
    exact ⟨⟨hdigits, fun c => isDigit_of_mem_zeros⟩, by decide⟩
  · simp [Numeral.text]
  · rw [Numeral.value_of_digits hsplit]
    congr 2
    simp only [Option.getD_none, List.length_singleton]
    omega
  · simp

/-- The point between digits. -/
theorem isPointed_between (hd : d ≠ '0') (hdigits : ∀ c ∈ d :: ds, isDigit c = true) {w : Nat}
    (hw : w < ds.length) :
    IsPointed ((d :: ds).take (w + 1) ++ '.' :: (d :: ds).drop (w + 1))
      (decimalValue (d :: ds) * 10 ^ ((w : Int) - ds.length)) := by
  have hsplit : (d :: ds).take (w + 1) ++ (d :: ds).drop (w + 1) =
      zeros 0 ++ ((d :: ds) ++ zeros 0) := by
    simp
  have hfraction : (d :: ds).drop (w + 1) ≠ [] := by
    simp only [List.drop_succ_cons, ne_eq, List.drop_eq_nil_iff]
    omega
  refine ⟨⟨(d :: ds).take (w + 1), (d :: ds).drop (w + 1), none⟩,
    ⟨?_, Or.inr ⟨d, _, List.take_succ_cons, hd⟩⟩, ?_, ?_, hfraction⟩
  · rw [List.take_append_drop]
    exact hdigits
  · simp only [Numeral.text, List.isEmpty_eq_false_iff.mpr hfraction, Bool.false_eq_true, if_false,
      Option.elim_none, List.append_nil]
  · rw [Numeral.value_of_digits hsplit]
    congr 2
    simp only [Option.getD_none, List.length_drop, List.length_cons]
    omega

/-- **Digits with the point after the one of a power** are a numeral. -/
theorem isPointed_positional (hd : d ≠ '0') (hdigits : ∀ c ∈ d :: ds, isDigit c = true)
    (power : Int) :
    IsPointed (positional (d :: ds) power)
      (decimalValue (d :: ds) * 10 ^ (power - ds.length)) := by
  unfold positional
  by_cases hneg : power < 0
  · obtain ⟨k, rfl⟩ : ∃ k : Nat, power = -(k : Int) - 1 := ⟨(-power - 1).toNat, by omega⟩
    have hk : (-(-(k : Int) - 1) - 1).toNat = k := by omega
    rw [if_pos hneg, hk]
    exact isPointed_behind hdigits k
  · obtain ⟨w, rfl⟩ := Int.eq_ofNat_of_zero_le (not_lt.mp hneg)
    rw [if_neg hneg]
    simp only [Int.toNat_natCast, List.length_cons]
    by_cases hshort : ds.length + 1 ≤ w + 1
    · have hpower : (w : Int) - ds.length = ((w + 1 - (ds.length + 1) : Nat) : Int) := by omega
      rw [if_pos hshort, hpower]
      exact isPointed_before hd hdigits _
    · rw [if_neg hshort]
      exact isPointed_between hd hdigits (by omega)

/-- The first digit, the others behind a point, and an exponent are a numeral. -/
theorem exists_numeral_scientific (hd : d ≠ '0') (hdigits : ∀ c ∈ d :: ds, isDigit c = true)
    (power : Int) :
    ∃ x : Numeral, x.Proper ∧ scientific (d :: ds) power = x.text ∧
      x.value = decimalValue (d :: ds) * 10 ^ (power - ds.length) ∧ x.exponent ≠ none := by
  have hsplit : [d] ++ ds = zeros 0 ++ ((d :: ds) ++ zeros 0) := by simp
  refine ⟨⟨[d], ds, some power⟩, ⟨hdigits, Or.inr ⟨d, [], rfl, hd⟩⟩, ?_, ?_, by simp⟩
  · cases ds <;> simp [scientific, Numeral.text]
  · rw [Numeral.value_of_digits hsplit]
    simp

end

/-- **The text of a decimal is a proper numeral with its value**, and one that has a point or an
    exponent. -/
theorem exists_numeral {x : Decimal} (hx : 0 < x.digits) :
    ∃ y : Numeral, y.Proper ∧ x.text = y.text ∧ y.value = x.digits * 10 ^ x.exponent ∧
      (y.fraction ≠ [] ∨ y.exponent ≠ none) := by
  obtain ⟨d, ds, k, hsig, hd, hsplit⟩ := exists_significant hx
  have hdigits : ∀ c ∈ d :: ds, isDigit c = true := fun c hc =>
    isDigit_of_mem_toDigits (n := x.digits) (hsplit ▸ List.mem_append_left _ hc)
  have hlength : decimalLength x.digits = ds.length + 1 + k := by
    rw [decimalLength, hsplit, List.length_append, length_zeros, List.length_cons]
  have hvalue : (x.digits : ℚ) = decimalValue (d :: ds) * 10 ^ k := by
    have h := decimalValue_append (d :: ds) (zeros k)
    rw [← hsplit, decimalValue_toDigits, decimalValue_zeros, length_zeros] at h
    exact_mod_cast h
  have hpower : (decimalValue (d :: ds) : ℚ) *
      10 ^ ((decimalLength x.digits : Int) - 1 + x.exponent - ds.length) =
        x.digits * 10 ^ x.exponent := by
    rw [hvalue, hlength, show ((ds.length + 1 + k : Nat) : Int) - 1 + x.exponent - ds.length =
      k + x.exponent by omega, zpow_add₀ (by norm_num), zpow_natCast]
    ring
  unfold Decimal.text
  simp only [hsig]
  split
  · obtain ⟨y, hy, htext, hval, hfraction⟩ := isPointed_positional hd hdigits
      (decimalLength x.digits - 1 + x.exponent)
    exact ⟨y, hy, htext, by rw [hval, hpower], Or.inl hfraction⟩
  · obtain ⟨y, hy, htext, hval, hexponent⟩ := exists_numeral_scientific hd hdigits
      (decimalLength x.digits - 1 + x.exponent)
    exact ⟨y, hy, htext, by rw [hval, hpower], Or.inr hexponent⟩

end SchemaRecords.Number

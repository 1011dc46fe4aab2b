import SchemaRecords.Number.Shortest
import SchemaRecords.Proofs.Number.Rounding

/-!
# The shortest decimal is read as its double

* `holds_iff` -- the interval of a double holds exactly the numbers that round to it;
* `onGrid?_roundsTo`, `exists_onGrid?` -- what a grid of decimals answers rounds to the double, and
  a grid with steps shorter than the interval answers;
* `roundsTo_shortest` -- seventeen digits always suffice, so the shortest decimal rounds to its
  double.
-/

namespace SchemaRecords.Number

open Double

/-! ## 1. The interval of a double -/

section

variable {m : Nat} {e : Int}

theorem unit_pos (m : Nat) (e : Int) : 0 < (Interval.of m e).unit :=
  Nat.mul_pos (by norm_num) (Nat.pow_pos (by norm_num))

/-- The power of two in a numerator is that of the exponent times that of the denominator. -/
theorem grow_eq (m : Nat) (e : Int) :
    4 * (Nat.pow 2 e.toNat : ℚ) = 2 ^ e * (Interval.of m e).unit := by
  have hcast : ((Interval.of m e).unit : ℚ) = 4 * 2 ^ (-e).toNat := by
    rw [Interval.of]
    push_cast [Nat.pow_eq]
    rfl
  rw [hcast]
  rcases le_total 0 e with h | h
  · obtain ⟨k, rfl⟩ := Int.eq_ofNat_of_zero_le h
    rw [Int.toNat_natCast, zpow_natCast, Int.toNat_of_nonpos (by omega), pow_zero]
    push_cast [Nat.pow_eq]
    ring
  · obtain ⟨k, rfl⟩ : ∃ k : Nat, e = -(k : Int) := ⟨(-e).toNat, by omega⟩
    rw [Int.toNat_of_nonpos h, neg_neg, Int.toNat_natCast, zpow_neg, zpow_natCast, Nat.pow_eq,
      pow_zero, Nat.cast_one]
    field_simp

theorem value_eq (m : Nat) (e : Int) :
    ((Interval.of m e).value : ℚ) = m * 2 ^ e * (Interval.of m e).unit := by
  rw [mul_assoc, ← grow_eq, Interval.of]
  push_cast
  ring

theorem high_eq (m : Nat) (e : Int) :
    ((Interval.of m e).high : ℚ) = (m + 1 / 2) * 2 ^ e * (Interval.of m e).unit := by
  rw [mul_assoc, ← grow_eq, Interval.of]
  push_cast
  ring

theorem low_eq (hm : 0 < m) (e : Int) :
    ((Interval.of m e).low : ℚ) = (m - reach m e) * 2 ^ e * (Interval.of m e).unit := by
  rw [mul_assoc, ← grow_eq, Interval.of, reach]
  by_cases h : m = 2 ^ 52 ∧ -1074 < e
  · have hb : (m == Nat.pow 2 52 && decide (-1074 < e)) = true := by simp [h.1, h.2]
    rw [if_pos h]
    simp only [hb, if_true]
    push_cast [show 1 ≤ 4 * m by omega]
    ring
  · have hb : (m == Nat.pow 2 52 && decide (-1074 < e)) = false := by
      rw [Bool.eq_false_iff]
      intro hb
      rw [Bool.and_eq_true, beq_iff_eq, decide_eq_true_eq] at hb
      exact h hb
    rw [if_neg h]
    simp only [hb, Bool.false_eq_true, if_false]
    push_cast [show 2 ≤ 4 * m by omega]
    ring

/-- A bound of the interval, compared with a quotient. -/
theorem bound_le_iff {a : ℚ} {bound : Nat}
    (h : (bound : ℚ) = a * 2 ^ e * (Interval.of m e).unit) (n : Nat) {d : Nat} (hd : 0 < d) :
    (bound * d ≤ n * (Interval.of m e).unit ↔ a ≤ (n : ℚ) / d / 2 ^ e) ∧
      (n * (Interval.of m e).unit ≤ bound * d ↔ (n : ℚ) / d / 2 ^ e ≤ a) := by
  have hd' : (0 : ℚ) < d := by exact_mod_cast hd
  have hunit : (0 : ℚ) < (Interval.of m e).unit := by exact_mod_cast unit_pos m e
  have hpos : (0 : ℚ) < 2 ^ e := by positivity
  have hleft : ((bound * d : Nat) : ℚ) = a * 2 ^ e * d * (Interval.of m e).unit := by
    push_cast
    rw [h]
    ring
  constructor
  · rw [le_div_iff₀ hpos, le_div_iff₀ hd', ← mul_le_mul_iff_of_pos_right hunit, ← hleft]
    exact_mod_cast Iff.rfl
  · rw [div_le_iff₀ hpos, div_le_iff₀ hd', ← mul_le_mul_iff_of_pos_right hunit, ← hleft]
    exact_mod_cast Iff.rfl

/-- **The interval holds exactly the numbers that round to the double.** -/
theorem holds_iff (hm : 0 < m) (n : Nat) {d : Nat} (hd : 0 < d) :
    (Interval.of m e).holds n d = true ↔ RoundsTo m e ((n : ℚ) / d) := by
  obtain ⟨hlow, hlow'⟩ := bound_le_iff (low_eq hm e) n hd
  obtain ⟨hhigh', hhigh⟩ := bound_le_iff (high_eq m e) n hd
  have hclosed : (Interval.of m e).closed = (m % 2 == 0) := rfl
  unfold Interval.holds
  by_cases heven : m % 2 = 0
  · simp only [hclosed, heven, beq_self_eq_true, if_true, Bool.and_eq_true, decide_eq_true_eq,
      hlow, hhigh]
    exact ⟨fun h => ⟨h.1, h.2, fun _ => heven, fun _ => heven⟩,
      fun h => ⟨h.low, h.high⟩⟩
  · simp only [hclosed, heven, beq_iff_eq, if_false, Bool.and_eq_true, decide_eq_true_eq,
      ← not_le, hlow', hhigh']
    constructor
    · rintro ⟨h1, h2⟩
      rw [not_le] at h1 h2
      exact ⟨h1.le, h2.le, fun h => absurd h h1.ne', fun h => absurd h h2.ne⟩
    · intro h
      exact ⟨fun hle => heven (h.lowEnd (le_antisymm hle h.low)),
        fun hle => heven (h.highEnd (le_antisymm h.high hle))⟩

/-- A number closer to a double than the nearer end rounds to it. -/
theorem RoundsTo.of_near {x : ℚ} (h : |x - m * 2 ^ e| < reach m e * 2 ^ e) : RoundsTo m e x := by
  have hpos : (0 : ℚ) < 2 ^ e := by positivity
  obtain ⟨h1, h2⟩ := abs_lt.mp h
  have hlow : m - reach m e < x / 2 ^ e := by
    rw [lt_div_iff₀ hpos]
    linarith
  have hhigh : x / 2 ^ e < m + reach m e := by
    rw [div_lt_iff₀ hpos]
    linarith
  have hreach := reach_le m e
  exact ⟨hlow.le, by linarith, fun h => absurd h hlow.ne', fun h => by linarith⟩

/-! ## 2. Grids of decimals -/

/-- A decimal as the quotient in which it is compared. -/
theorem decimal_eq_quotient (digits : Nat) (g : Int) :
    ((digits * Nat.pow 10 g.toNat : Nat) : ℚ) / (Nat.pow 10 (-g).toNat : Nat) =
      digits * 10 ^ g := by
  rcases le_total 0 g with h | h
  · obtain ⟨k, rfl⟩ := Int.eq_ofNat_of_zero_le h
    rw [Int.toNat_natCast, zpow_natCast, Int.toNat_of_nonpos (by omega), Nat.pow_eq, Nat.pow_eq,
      pow_zero, Nat.cast_one, div_one]
    push_cast
    rfl
  · obtain ⟨k, rfl⟩ : ∃ k : Nat, g = -(k : Int) := ⟨(-g).toNat, by omega⟩
    rw [Int.toNat_of_nonpos h, neg_neg, Int.toNat_natCast, zpow_neg, zpow_natCast, Nat.pow_eq,
      Nat.pow_eq, pow_zero, mul_one]
    push_cast
    rfl

/-- The decimal of a grid rounds to the double if the interval holds its quotient. -/
theorem holds_decimal_iff (hm : 0 < m) (digits : Nat) (g : Int) :
    (Interval.of m e).holds (digits * Nat.pow 10 g.toNat) (Nat.pow 10 (-g).toNat) = true ↔
      RoundsTo m e (digits * 10 ^ g) := by
  have hd : 0 < Nat.pow 10 (-g).toNat := Nat.pow_pos (by norm_num)
  rw [holds_iff hm _ hd, decimal_eq_quotient]

/-- What a grid answers rounds to the double. -/
theorem onGrid?_roundsTo (hm : 0 < m) {g : Int} {x : Decimal}
    (h : (Interval.of m e).onGrid? g = some x) : RoundsTo m e (x.digits * 10 ^ x.exponent) := by
  unfold Interval.onGrid? at h
  simp only at h
  generalize (Interval.of m e).value * Nat.pow 10 (-g).toNat / ((Interval.of m e).unit *
    Nat.pow 10 g.toNat) = q at h
  split at h
  · -- both neighbours hold, so it is all one which of them is the nearer
    rename_i hboth
    rw [Bool.and_eq_true] at hboth
    have hlower := (holds_decimal_iff hm q g).mp hboth.1
    have hupper := (holds_decimal_iff hm (q + 1) g).mp hboth.2
    split at h
    · cases h
      exact hlower
    · split at h
      · cases h
        exact hupper
      · cases h
        rcases Nat.mod_two_eq_zero_or_one q with hq | hq <;> rw [hq]
        · exact hlower
        · exact hupper
  · split at h
    · rename_i hlower
      cases h
      exact (holds_decimal_iff hm q g).mp hlower
    · split at h
      · rename_i hupper
        cases h
        exact (holds_decimal_iff hm (q + 1) g).mp hupper
      · cases h

/-- One of the neighbours of a number on a grid is at most half a step away. -/
theorem near_neighbour {v step : ℚ} (hstep : 0 < step) {q : Nat} (hlow : q * step ≤ v)
    (hhigh : v < (q + 1 : Nat) * step) :
    |q * step - v| ≤ step / 2 ∨ |(q + 1 : Nat) * step - v| ≤ step / 2 := by
  push_cast at hhigh ⊢
  rcases le_total (v - q * step) (step / 2) with h | h
  · exact Or.inl (abs_le.mpr ⟨by linarith, by linarith⟩)
  · exact Or.inr (abs_le.mpr ⟨by linarith, by linarith⟩)

/-- The neighbours of a double on a grid are next to it. -/
theorem floor_bounds (m : Nat) (e g : Int) :
    let q := (Interval.of m e).value * Nat.pow 10 (-g).toNat /
      ((Interval.of m e).unit * Nat.pow 10 g.toNat)
    (q : ℚ) * 10 ^ g ≤ m * 2 ^ e ∧ (m : ℚ) * 2 ^ e < (q + 1 : Nat) * 10 ^ g := by
  intro q
  have hdown : (0 : ℚ) < (Nat.pow 10 (-g).toNat : Nat) := by
    exact_mod_cast Nat.pow_pos (n := (-g).toNat) (show 0 < 10 by norm_num)
  have hunit : (0 : ℚ) < (Interval.of m e).unit := by exact_mod_cast unit_pos m e
  have hd : 0 < (Interval.of m e).unit * Nat.pow 10 g.toNat :=
    Nat.mul_pos (unit_pos m e) (Nat.pow_pos (by norm_num))
  have hvalue : (m : ℚ) * 2 ^ e * ((Interval.of m e).unit * (Nat.pow 10 (-g).toNat : Nat)) =
      ((Interval.of m e).value * Nat.pow 10 (-g).toNat : Nat) := by
    push_cast
    rw [value_eq]
    ring
  have hgrid (k : Nat) :
      (k : ℚ) * 10 ^ g * ((Interval.of m e).unit * (Nat.pow 10 (-g).toNat : Nat)) =
        (k * ((Interval.of m e).unit * Nat.pow 10 g.toNat) : Nat) := by
    rw [← decimal_eq_quotient]
    push_cast
    field_simp
  have hpos := mul_pos hunit hdown
  constructor
  · rw [← mul_le_mul_iff_of_pos_right hpos, hgrid, hvalue]
    exact_mod_cast Nat.div_mul_le_self _ _
  · rw [← mul_lt_mul_iff_of_pos_right hpos, hgrid, hvalue]
    have hlt : (Interval.of m e).value * Nat.pow 10 (-g).toNat <
        (q + 1) * ((Interval.of m e).unit * Nat.pow 10 g.toNat) :=
      (Nat.lt_mul_div_succ _ hd).trans_eq (Nat.mul_comm _ _)
    exact_mod_cast hlt

/-- A grid with steps shorter than twice the way to the nearer end answers. -/
theorem exists_onGrid? (hm : 0 < m) {g : Int} (hg : (10 : ℚ) ^ g / 2 < reach m e * 2 ^ e) :
    ∃ x, (Interval.of m e).onGrid? g = some x := by
  obtain ⟨hlow, hhigh⟩ := floor_bounds m e g
  unfold Interval.onGrid?
  simp only
  generalize (Interval.of m e).value * Nat.pow 10 (-g).toNat / ((Interval.of m e).unit *
    Nat.pow 10 g.toNat) = q at *
  have hnear : (Interval.of m e).holds (q * Nat.pow 10 g.toNat) (Nat.pow 10 (-g).toNat) = true ∨
      (Interval.of m e).holds ((q + 1) * Nat.pow 10 g.toNat) (Nat.pow 10 (-g).toNat) = true :=
    (near_neighbour (by positivity) hlow hhigh).imp
      (fun h => (holds_decimal_iff hm q g).mpr (.of_near (h.trans_lt hg)))
      (fun h => (holds_decimal_iff hm (q + 1) g).mpr (.of_near (h.trans_lt hg)))
  split
  · split
    · exact ⟨_, rfl⟩
    · split <;> exact ⟨_, rfl⟩
  · split
    · exact ⟨_, rfl⟩
    · rename_i hlower
      rw [if_pos (hnear.resolve_left hlower)]
      exact ⟨_, rfl⟩

end

/-! ## 3. The shortest decimal -/

/-- The leading power of a quotient is at most the quotient. -/
theorem leadingPower_le {n d : Nat} (hn : 0 < n) (hd : 0 < d) :
    (10 : ℚ) ^ leadingPower n d ≤ (n : ℚ) / d := by
  have hd' : (0 : ℚ) < d := by exact_mod_cast hd
  unfold leadingPower
  by_cases h : d ≤ n
  · rw [if_pos h]
    obtain ⟨hlow, _⟩ := decimalLength_bounds (Nat.div_pos h hd)
    have hlength : 0 < decimalLength (n / d) := Nat.length_toDigits_pos
    rw [show (decimalLength (n / d) : Int) - 1 = (decimalLength (n / d) - 1 : Nat) by omega,
      zpow_natCast, le_div_iff₀ hd']
    exact_mod_cast (Nat.mul_le_mul_right d hlow).trans (Nat.div_mul_le_self n d)
  · rw [if_neg h]
    have hlt : (d - 1) / n < 10 ^ decimalLength ((d - 1) / n) := by
      rcases Nat.eq_zero_or_pos ((d - 1) / n) with hzero | hpos
      · rw [hzero]
        exact Nat.pow_pos (by norm_num)
      · exact (decimalLength_bounds hpos).2
    have hle : d ≤ 10 ^ decimalLength ((d - 1) / n) * n := by
      have := (Nat.div_lt_iff_lt_mul hn).mp hlt
      omega
    rw [zpow_neg, zpow_natCast, le_div_iff₀ hd', inv_mul_le_iff₀ (by positivity)]
    exact_mod_cast hle

/-- With seventeen digits the steps of the grid are short enough. -/
theorem seventeen_digits {m : Nat} {e : Int} (hm : m < 2 ^ 53) {top : Int}
    (htop : (10 : ℚ) ^ top ≤ m * 2 ^ e) : (10 : ℚ) ^ (top - 16) / 2 < reach m e * 2 ^ e := by
  have hpos : (0 : ℚ) < 2 ^ e := by positivity
  have hstep : (10 : ℚ) ^ (top - 16) ≤ m * 2 ^ e / 10 ^ 16 := by
    rw [zpow_sub₀ (by norm_num), show (10 : ℚ) ^ (16 : Int) = 10 ^ 16 by norm_num]
    exact div_le_div_of_nonneg_right htop (by positivity)
  have hmantissa : (m : ℚ) / 10 ^ 16 / 2 < reach m e := by
    have hsmall : (m : ℚ) < 2 ^ 53 := by exact_mod_cast hm
    unfold reach
    split
    · rename_i h
      rw [h.1]
      norm_num
    · rw [div_div, div_lt_iff₀ (by norm_num)]
      exact hsmall.trans (by norm_num)
  calc (10 : ℚ) ^ (top - 16) / 2 ≤ m * 2 ^ e / 10 ^ 16 / 2 := by linarith
    _ = m / 10 ^ 16 / 2 * 2 ^ e := by ring
    _ < reach m e * 2 ^ e := mul_lt_mul_of_pos_right hmantissa hpos

/-- **The shortest decimal of a double rounds to it.** -/
theorem roundsTo_shortest {m : Nat} {e : Int} (hpos : 0 < m) (hm : m < 2 ^ 53) :
    RoundsTo m e ((shortest m e).digits * 10 ^ (shortest m e).exponent) := by
  have hunit : (0 : ℚ) < (Interval.of m e).unit := by exact_mod_cast unit_pos m e
  have hvalue : 0 < (Interval.of m e).value :=
    Nat.mul_pos (Nat.mul_pos (by norm_num) hpos) (Nat.pow_pos (by norm_num))
  have htop := leadingPower_le hvalue (unit_pos m e)
  rw [value_eq, mul_div_cancel_right₀ _ hunit.ne'] at htop
  obtain ⟨x, hx⟩ := exists_onGrid? hpos (seventeen_digits hm htop)
  unfold shortest
  simp only
  set top := leadingPower (Interval.of m e).value (Interval.of m e).unit
  cases h : (List.range 17).findSome? fun (k : Nat) => (Interval.of m e).onGrid? (top - k) with
  | none =>
    have hlast := List.findSome?_eq_none_iff.mp h 16 (by decide)
    rw [show ((16 : Nat) : Int) = 16 from rfl, hx] at hlast
    cases hlast
  | some y =>
    obtain ⟨k, _, hk⟩ := List.exists_of_findSome?_eq_some h
    rw [Option.getD_some]
    exact onGrid?_roundsTo hpos hk

end SchemaRecords.Number

import Mathlib
import SchemaRecords.Number.Numeral

/-!
# Rounding to doubles

What the integer arithmetic of rounding does, said of rational numbers.

* `Nearest`, `nearest_roundHalfEven` -- the nearest whole number, of two equally near ones the even
  one; there is only one (`Nearest.unique`);
* `InBinade`, `inBinade_exponentOf` -- the exponent at which a number has a mantissa of 53 bits, or
  the least one; there is only one (`InBinade.unique`);
* `Regular`, `Double.IsRegular` -- the mantissas and exponents of doubles; every number that is
  rounded is regular (`regular_ofRatio`);
* `RoundsTo` -- the numbers that round to a double; `ofRatio_of_roundsTo` and
  `ofDecimal_of_roundsTo`: they do, as quotients and as decimals;
* `regular_add`, `regular_float?` -- sums and numerals are regular too.
-/

namespace SchemaRecords.Number

open Double

/-! ## 1. The nearest whole number -/

/-- The number is a nearest whole one, and the even one if there are two. -/
structure Nearest (y : ℚ) (m : Nat) : Prop where
  near : |y - m| ≤ 1 / 2
  even : |y - m| = 1 / 2 → m % 2 = 0

/-- Of two whole numbers within a half, each even if it is a half away, there is only one. -/
theorem Nearest.unique {y : ℚ} {m k : Nat} (hm : Nearest y m) (hk : Nearest y k) : m = k := by
  by_contra hne
  wlog hlt : m < k generalizing m k
  · exact this hk hm (Ne.symm hne) (by omega)
  have hgap : (m : ℚ) + 1 ≤ k := by exact_mod_cast hlt
  have hupper := (abs_le.mp hm.near).2
  have hlower := (abs_le.mp hk.near).1
  -- two nearest numbers are neighbours, and both a half away
  have hmid : y - m = 1 / 2 := by linarith
  have hmid' : y - k = -(1 / 2) := by linarith
  have hsucc : k = m + 1 := by
    have : (k : ℚ) = m + 1 := by linarith
    exact_mod_cast this
  have hevenm := hm.even (by rw [hmid]; norm_num)
  have hevenk := hk.even (by rw [hmid']; norm_num)
  omega

theorem nearest_down {q : Nat} {t : ℚ} (h0 : 0 ≤ t) (ht : t < 1 / 2) : Nearest (q + t) q := by
  have habs : |(q : ℚ) + t - q| = t := by rw [add_sub_cancel_left, abs_of_nonneg h0]
  exact ⟨by rw [habs]; exact ht.le, fun h => absurd (habs ▸ h) ht.ne⟩

theorem nearest_up {q : Nat} {t : ℚ} (ht : 1 / 2 < t) (h1 : t < 1) :
    Nearest (q + t) (q + 1) := by
  have habs : |(q : ℚ) + t - (q + 1 : Nat)| = 1 - t := by
    push_cast
    rw [abs_of_neg (by linarith)]
    ring
  exact ⟨by rw [habs]; linarith, fun h => by rw [habs] at h; linarith⟩

/-- A half goes to the even neighbour. -/
theorem nearest_half (q : Nat) : Nearest (q + 1 / 2) (q + q % 2) := by
  refine ⟨?_, fun _ => by omega⟩
  rcases Nat.mod_two_eq_zero_or_one q with h | h <;> rw [h, abs_le] <;> push_cast <;>
    constructor <;> linarith

theorem nearest_roundHalfEven (a : Nat) {b : Nat} (hb : 0 < b) :
    Nearest ((a : ℚ) / b) (roundHalfEven a b) := by
  have hb' : (0 : ℚ) < b := by exact_mod_cast hb
  have hsplit : (a : ℚ) / b = (a / b : Nat) + ((a % b : Nat) : ℚ) / b := by
    have h : (a : ℚ) = b * (a / b : Nat) + (a % b : Nat) := by
      exact_mod_cast (Nat.div_add_mod a b).symm
    rw [h]
    field_simp
  have hmod := Nat.mod_lt a hb
  unfold roundHalfEven
  simp only
  rw [hsplit]
  generalize a / b = q at *
  generalize a % b = r at *
  rcases lt_trichotomy (2 * r) b with hlt | heq | hgt
  · rw [if_pos hlt]
    refine nearest_down (by positivity) ?_
    rw [div_lt_iff₀ hb']
    have : (2 : ℚ) * r < b := by exact_mod_cast hlt
    linarith
  · rw [if_neg (by omega), if_neg (by omega)]
    have ht : (r : ℚ) / b = 1 / 2 := by
      rw [div_eq_iff hb'.ne']
      have : (2 : ℚ) * r = b := by exact_mod_cast heq
      linarith
    rw [ht]
    exact nearest_half q
  · rw [if_neg (by omega), if_pos hgt]
    refine nearest_up ?_ ?_
    · rw [lt_div_iff₀ hb']
      have : (b : ℚ) < 2 * r := by exact_mod_cast hgt
      linarith
    · rw [div_lt_one hb']
      exact_mod_cast hmod

/-! ## 2. The exponent of a number -/

/-- The number has at most 53 bits before the point at the exponent, and 53 unless the exponent is
    the least one. -/
structure InBinade (x : ℚ) (e : Int) : Prop where
  least : -1074 ≤ e
  below : x < 2 ^ (53 + e)
  above : e = -1074 ∨ 2 ^ (52 + e) ≤ x

theorem two_zpow_lt_iff {e f : Int} : (2 : ℚ) ^ e < 2 ^ f ↔ e < f :=
  zpow_lt_zpow_iff_right₀ (by norm_num)

theorem two_zpow_le_iff {e f : Int} : (2 : ℚ) ^ e ≤ 2 ^ f ↔ e ≤ f :=
  zpow_le_zpow_iff_right₀ (by norm_num)

theorem InBinade.le {x : ℚ} {e f : Int} (he : InBinade x e) (hf : InBinade x f) : e ≤ f := by
  rcases he.above with rfl | habove
  · exact hf.least
  · have h := two_zpow_lt_iff.mp (lt_of_le_of_lt habove hf.below)
    omega

theorem InBinade.unique {x : ℚ} {e f : Int} (he : InBinade x e) (hf : InBinade x f) : e = f :=
  le_antisymm (he.le hf) (hf.le he)

theorem shifted_snd_pos (n : Nat) {d : Nat} (hd : 0 < d) (e : Int) : 0 < (shifted n d e).2 := by
  unfold shifted
  split
  · exact Nat.mul_pos hd (Nat.pow_pos (by norm_num))
  · exact hd

theorem shifted_div (n : Nat) {d : Nat} (hd : 0 < d) (e : Int) :
    ((shifted n d e).1 : ℚ) / (shifted n d e).2 = (n : ℚ) / d / 2 ^ e := by
  have hd' : (d : ℚ) ≠ 0 := by exact_mod_cast hd.ne'
  unfold shifted
  split
  · rename_i he
    obtain ⟨k, rfl⟩ := Int.eq_ofNat_of_zero_le he
    rw [Int.toNat_natCast, zpow_natCast, div_div]
    push_cast [Nat.pow_eq]
    rfl
  · rename_i he
    obtain ⟨k, rfl⟩ : ∃ k : Nat, e = -(k : Int) := ⟨(-e).toNat, by omega⟩
    rw [neg_neg, Int.toNat_natCast, zpow_neg, zpow_natCast, div_inv_eq_mul]
    push_cast [Nat.pow_eq]
    ring

/-- The lengths of the two numbers of a quotient bound it. -/
theorem log2_bounds {n d : Nat} (hn : 0 < n) (hd : 0 < d) :
    (2 : ℚ) ^ ((n.log2 : Int) - d.log2 - 1) < (n : ℚ) / d ∧
      (n : ℚ) / d < 2 ^ ((n.log2 : Int) - d.log2 + 1) := by
  have hd' : (0 : ℚ) < d := by exact_mod_cast hd
  have hnlow : (2 : ℚ) ^ (n.log2 : Int) ≤ n := by
    rw [zpow_natCast]
    exact_mod_cast Nat.log2_self_le hn.ne'
  have hnhigh : (n : ℚ) < 2 ^ ((n.log2 : Int) + 1) := by
    have h : n < 2 ^ (n.log2 + 1) := Nat.lt_log2_self
    exact_mod_cast h
  have hdlow : (2 : ℚ) ^ (d.log2 : Int) ≤ d := by
    rw [zpow_natCast]
    exact_mod_cast Nat.log2_self_le hd.ne'
  have hdhigh : (d : ℚ) < 2 ^ ((d.log2 : Int) + 1) := by
    have h : d < 2 ^ (d.log2 + 1) := Nat.lt_log2_self
    exact_mod_cast h
  constructor
  · rw [lt_div_iff₀ hd']
    calc (2 : ℚ) ^ ((n.log2 : Int) - d.log2 - 1) * d
        < 2 ^ ((n.log2 : Int) - d.log2 - 1) * 2 ^ ((d.log2 : Int) + 1) :=
          mul_lt_mul_of_pos_left hdhigh (by positivity)
      _ = 2 ^ (n.log2 : Int) := by rw [← zpow_add₀ (by norm_num)]; congr 1; ring
      _ ≤ n := hnlow
  · rw [div_lt_iff₀ hd']
    calc (n : ℚ) < 2 ^ ((n.log2 : Int) + 1) := hnhigh
      _ = 2 ^ ((n.log2 : Int) - d.log2 + 1) * 2 ^ (d.log2 : Int) := by
          rw [← zpow_add₀ (by norm_num)]; congr 1; ring
      _ ≤ 2 ^ ((n.log2 : Int) - d.log2 + 1) * d := mul_le_mul_of_nonneg_left hdlow (by positivity)

/-- The whole part of a shifted quotient has at most 53 bits exactly if the quotient is below the
    bound. -/
theorem shifted_lt_iff (n : Nat) {d : Nat} (hd : 0 < d) (e : Int) :
    (shifted n d e).1 / (shifted n d e).2 < Nat.pow 2 53 ↔ (n : ℚ) / d < 2 ^ (53 + e) := by
  have hb : (0 : ℚ) < (shifted n d e).2 := by exact_mod_cast shifted_snd_pos n hd e
  rw [Nat.div_lt_iff_lt_mul (shifted_snd_pos n hd e), zpow_add₀ (by norm_num),
    ← div_lt_iff₀ (by positivity), ← shifted_div n hd, div_lt_iff₀ hb]
  norm_cast

/-- **The exponent that is estimated from the lengths is the right one.** -/
theorem inBinade_exponentOf {n d : Nat} (hn : 0 < n) (hd : 0 < d) :
    InBinade ((n : ℚ) / d) (exponentOf n d) := by
  obtain ⟨hlow, hhigh⟩ := log2_bounds hn hd
  unfold exponentOf
  simp only
  set e₀ : Int := (n.log2 : Int) - d.log2 - 53 with he₀
  by_cases hfit : (n : ℚ) / d < 2 ^ (53 + max e₀ (-1074))
  · rw [if_pos ((shifted_lt_iff n hd _).mpr hfit)]
    refine ⟨le_max_right _ _, hfit, ?_⟩
    rcases le_total e₀ (-1074) with h | h
    · exact Or.inl (max_eq_right h)
    · rw [max_eq_left h]
      exact Or.inr (le_trans (two_zpow_le_iff.mpr (by omega)) hlow.le)
  · rw [if_neg fun h => hfit ((shifted_lt_iff n hd _).mp h)]
    have he : max e₀ (-1074) = e₀ := by
      by_contra hne
      exact hfit (lt_of_lt_of_le hhigh (two_zpow_le_iff.mpr (by omega)))
    rw [he] at hfit ⊢
    refine ⟨by omega, lt_of_lt_of_le hhigh (two_zpow_le_iff.mpr (by omega)), Or.inr ?_⟩
    rw [show (52 : Int) + (e₀ + 1) = 53 + e₀ by ring]
    exact not_lt.mp hfit

/-! ## 3. Regular doubles -/

/-- A mantissa of 53 bits, or a lesser one at the least exponent, at an exponent in range. -/
structure Regular (m : Nat) (e : Int) : Prop where
  small : m < 2 ^ 53
  least : -1074 ≤ e
  greatest : e ≤ 971
  full : 2 ^ 52 ≤ m ∨ e = -1074

/-- A finite double has a regular mantissa and exponent. -/
def Double.IsRegular : Double → Prop
  | .finite _ m e => Regular m e
  | _ => True

theorem regular_zero (s : Bool) : (zero s).IsRegular :=
  ⟨by norm_num, by norm_num, by norm_num, Or.inr rfl⟩

/-- A mantissa of at most 2^53 comes out regular. -/
theorem regular_normalized (s : Bool) {m : Nat} {e : Int} (hm : m ≤ 2 ^ 53) (he : -1074 ≤ e)
    (hfull : 2 ^ 52 ≤ m ∨ e = -1074) : (normalized s m e).IsRegular := by
  unfold normalized
  by_cases htop : m = 2 ^ 53
  · subst htop
    simp only [Nat.pow_eq, beq_self_eq_true, if_true]
    split
    · trivial
    · exact ⟨by norm_num, by omega, by omega, Or.inl le_rfl⟩
  · simp only [Nat.pow_eq, beq_iff_eq, htop, if_false]
    split
    · trivial
    · exact ⟨by omega, he, by omega, hfull⟩

/-- The rounded mantissa at the right exponent: at most 2^53, and full unless the exponent is the
    least one. -/
theorem Nearest.bounds {x : ℚ} {e : Int} {r : Nat} (hx : InBinade x e)
    (hr : Nearest (x / 2 ^ e) r) : r ≤ 2 ^ 53 ∧ (2 ^ 52 ≤ r ∨ e = -1074) := by
  have hpos : (0 : ℚ) < 2 ^ e := by positivity
  have hnear := abs_le.mp hr.near
  constructor
  · have hlt : x / 2 ^ e < 2 ^ 53 := by
      rw [div_lt_iff₀ hpos]
      have h := hx.below
      rw [zpow_add₀ (by norm_num)] at h
      exact_mod_cast h
    have : (r : ℚ) < (2 ^ 53 : Nat) + 1 := by
      push_cast
      linarith [hnear.1]
    have : r < 2 ^ 53 + 1 := by exact_mod_cast this
    omega
  · refine hx.above.symm.imp (fun h => ?_) id
    have hle : (2 : ℚ) ^ 52 ≤ x / 2 ^ e := by
      rw [le_div_iff₀ hpos]
      rw [zpow_add₀ (by norm_num)] at h
      exact_mod_cast h
    have : ((2 ^ 52 : Nat) : ℚ) < r + 1 := by
      push_cast
      linarith [hnear.2]
    have : 2 ^ 52 < r + 1 := by exact_mod_cast this
    omega

/-- The rounded mantissa at the right exponent. -/
theorem nearest_shifted (n : Nat) {d : Nat} (hd : 0 < d) (e : Int) :
    Nearest ((n : ℚ) / d / 2 ^ e) (roundHalfEven (shifted n d e).1 (shifted n d e).2) := by
  rw [← shifted_div n hd]
  exact nearest_roundHalfEven _ (shifted_snd_pos n hd e)

/-- At an exponent and a nearest mantissa that are right, the quotient rounds to them. -/
theorem ofRatio_eq (s : Bool) {n d : Nat} (hn : 0 < n) (hd : 0 < d) {r : Nat} {e : Int}
    (he : InBinade ((n : ℚ) / d) e) (hr : Nearest ((n : ℚ) / d / 2 ^ e) r) :
    ofRatio s n d = normalized s r e := by
  obtain rfl := (inBinade_exponentOf hn hd).unique he
  rw [← (nearest_shifted n hd _).unique hr]
  unfold ofRatio
  simp only [beq_iff_eq, hn.ne', if_false]

/-- **Every quotient rounds to a regular double.** -/
theorem regular_ofRatio (s : Bool) (n : Nat) {d : Nat} (hd : 0 < d) :
    (ofRatio s n d).IsRegular := by
  rcases Nat.eq_zero_or_pos n with rfl | hn
  · exact regular_zero s
  · have hbinade := inBinade_exponentOf hn hd
    have hnear := nearest_shifted n hd (exponentOf n d)
    obtain ⟨hle, hfull⟩ := hnear.bounds hbinade
    rw [ofRatio_eq s hn hd hbinade hnear]
    exact regular_normalized s hle hbinade.least hfull

/-! ## 4. The numbers that round to a double -/

/-- How far below a mantissa its numbers begin: half a step, but a quarter below a power of two,
    where the steps get smaller. -/
def reach (m : Nat) (e : Int) : ℚ := if m = 2 ^ 52 ∧ -1074 < e then 1 / 4 else 1 / 2

theorem reach_le (m : Nat) (e : Int) : reach m e ≤ 1 / 2 := by
  unfold reach
  split <;> norm_num

/-- The number lies between the ends around a mantissa at an exponent, and on an end only if the
    mantissa is even. -/
structure RoundsTo (m : Nat) (e : Int) (x : ℚ) : Prop where
  low : m - reach m e ≤ x / 2 ^ e
  high : x / 2 ^ e ≤ m + 1 / 2
  lowEnd : x / 2 ^ e = m - reach m e → m % 2 = 0
  highEnd : x / 2 ^ e = m + 1 / 2 → m % 2 = 0

section

variable {m : Nat} {e : Int} {x : ℚ}

/-- Such a number is at least half of the least double. -/
theorem RoundsTo.half_le (h : RoundsTo m e x) (hm : 0 < m) : 2 ^ (e - 1) ≤ x := by
  have hone : (1 : ℚ) ≤ m := by exact_mod_cast hm
  have hy : 1 / 2 ≤ x / 2 ^ e := by linarith [h.low, reach_le m e]
  rw [le_div_iff₀ (by positivity)] at hy
  rw [zpow_sub₀ (by norm_num), zpow_one]
  linarith

theorem RoundsTo.pos (h : RoundsTo m e x) (hm : 0 < m) : 0 < x :=
  lt_of_lt_of_le (by positivity) (h.half_le hm)

/-- Such a number has at most 53 bits before the point. -/
theorem RoundsTo.lt (h : RoundsTo m e x) (hm : m < 2 ^ 53) : x < 2 ^ (53 + e) := by
  have htop : (m : ℚ) + 1 ≤ 2 ^ 53 := by exact_mod_cast hm
  have hy : x / 2 ^ e < 2 ^ 53 := by linarith [h.high]
  rw [div_lt_iff₀ (by positivity)] at hy
  rw [zpow_add₀ (by norm_num)]
  exact_mod_cast hy

/-- Within the steps of the exponent the mantissa is the nearest one. -/
theorem RoundsTo.nearest (h : RoundsTo m e x) : Nearest (x / 2 ^ e) m := by
  have hreach := reach_le m e
  refine ⟨abs_le.mpr ⟨by linarith [h.low], by linarith [h.high]⟩, fun habs => ?_⟩
  rcases eq_or_eq_neg_of_abs_eq habs with hup | hdown
  · exact h.highEnd (by linarith)
  · exact h.lowEnd (by linarith [h.low])

/-- Below the steps of the exponent the mantissa is a power of two, and its double at the exponent
    below is the nearest one. -/
theorem RoundsTo.nearest_below (h : RoundsTo m e x) (hm : Regular m e) (he : -1074 < e)
    (hx : x < 2 ^ (52 + e)) :
    m = 2 ^ 52 ∧ InBinade x (e - 1) ∧ Nearest (x / 2 ^ (e - 1)) (2 ^ 53) := by
  have hpos : (0 : ℚ) < 2 ^ e := by positivity
  have hy : x / 2 ^ e < 2 ^ 52 := by
    rw [div_lt_iff₀ hpos]
    rw [zpow_add₀ (by norm_num)] at hx
    exact_mod_cast hx
  have hfull : 2 ^ 52 ≤ m := hm.full.resolve_right (by omega)
  -- a mantissa above the least one is out of reach from below the steps of the exponent
  have hlt : (m : ℚ) < (2 ^ 52 : Nat) + 1 := by
    push_cast
    linarith [h.low, reach_le m e]
  have heq : m = 2 ^ 52 := by
    have : m < 2 ^ 52 + 1 := by exact_mod_cast hlt
    omega
  have hlow := h.low
  rw [reach, if_pos ⟨heq, he⟩, heq] at hlow
  push_cast at hlow
  have hdouble : x / 2 ^ (e - 1) = 2 * (x / 2 ^ e) := by
    rw [zpow_sub₀ (by norm_num), zpow_one]
    field_simp
  refine ⟨heq, ⟨by omega, ?_, Or.inr ?_⟩, ?_⟩
  · rwa [show (53 : Int) + (e - 1) = 52 + e by ring]
  · have hle : (2 : ℚ) ^ 51 ≤ x / 2 ^ e := by linarith
    rw [le_div_iff₀ hpos] at hle
    rw [show (52 : Int) + (e - 1) = 51 + e by ring, zpow_add₀ (by norm_num)]
    exact_mod_cast hle
  · rw [hdouble]
    refine ⟨abs_le.mpr ⟨?_, ?_⟩, fun _ => by norm_num⟩ <;> push_cast <;> linarith

/-- **A quotient between the ends around a double rounds to it.** -/
theorem ofRatio_of_roundsTo (s : Bool) (hm : Regular m e) (hpos : 0 < m) {n d : Nat} (hd : 0 < d)
    (h : RoundsTo m e ((n : ℚ) / d)) : ofRatio s n d = .finite s m e := by
  have hn : 0 < n := by
    refine Nat.pos_of_ne_zero fun hzero => ?_
    have hx := h.pos hpos
    rw [hzero, Nat.cast_zero, zero_div] at hx
    exact lt_irrefl _ hx
  have hgreatest : ¬ 971 < e := by have := hm.greatest; omega
  by_cases hbelow : -1074 < e ∧ (n : ℚ) / d < 2 ^ (52 + e)
  · obtain ⟨rfl, hbinade, hnear⟩ := h.nearest_below hm hbelow.1 hbelow.2
    rw [ofRatio_eq s hn hd hbinade hnear]
    simp only [normalized, Nat.pow_eq, beq_self_eq_true, if_true, sub_add_cancel, hgreatest,
      if_false]
  · have hbinade : InBinade ((n : ℚ) / d) e := by
      refine ⟨hm.least, h.lt hm.small, ?_⟩
      by_cases hleast : e = -1074
      · exact Or.inl hleast
      · have := hm.least
        exact Or.inr (not_lt.mp fun hlt => hbelow ⟨by omega, hlt⟩)
    rw [ofRatio_eq s hn hd hbinade h.nearest]
    simp only [normalized, Nat.pow_eq, beq_iff_eq, hm.small.ne, hgreatest, if_false]

end

/-! ## 5. Decimals -/

/-- A decimal that rounds to a double is not zero. -/
theorem RoundsTo.digits_pos {m : Nat} {e : Int} {digits : Nat} {exponent : Int}
    (h : RoundsTo m e (digits * 10 ^ exponent)) (hm : 0 < m) : 0 < digits := by
  refine Nat.pos_of_ne_zero fun hzero => ?_
  have hx := h.pos hm
  rw [hzero, Nat.cast_zero, zero_mul] at hx
  exact lt_irrefl _ hx

theorem decimalLength_bounds {n : Nat} (hn : 0 < n) :
    10 ^ (decimalLength n - 1) ≤ n ∧ n < 10 ^ decimalLength n := by
  have hlength : 0 < decimalLength n := Nat.length_toDigits_pos
  refine ⟨?_, (Nat.length_toDigits_le_iff (by norm_num) hlength).mp le_rfl⟩
  rcases Nat.eq_zero_or_pos (decimalLength n - 1) with h | h
  · rw [h]
    exact hn
  · by_contra hlt
    have := (Nat.length_toDigits_le_iff (by norm_num) h).mpr (not_le.mp hlt)
    unfold decimalLength at *
    omega

/-- A decimal lies between the powers of ten that its length and its exponent tell. -/
theorem decimal_bounds {digits : Nat} (hdigits : 0 < digits) (exponent : Int) :
    (10 : ℚ) ^ (decimalLength digits + exponent - 1) ≤ digits * 10 ^ exponent ∧
      (digits : ℚ) * 10 ^ exponent < 10 ^ (decimalLength digits + exponent) := by
  obtain ⟨hlow, hhigh⟩ := decimalLength_bounds hdigits
  have hlength : 0 < decimalLength digits := Nat.length_toDigits_pos
  have hpos : (0 : ℚ) < 10 ^ exponent := by positivity
  constructor
  · have hlow' : (10 : ℚ) ^ (decimalLength digits - 1) ≤ digits := by exact_mod_cast hlow
    rw [show (decimalLength digits : Int) + exponent - 1 =
      (decimalLength digits - 1 : Nat) + exponent by omega, zpow_add₀ (by norm_num), zpow_natCast]
    exact mul_le_mul_of_nonneg_right hlow' hpos.le
  · have hhigh' : (digits : ℚ) < 10 ^ decimalLength digits := by exact_mod_cast hhigh
    rw [zpow_add₀ (by norm_num), zpow_natCast]
    exact mul_lt_mul_of_pos_right hhigh' hpos

/-- The quotient that a decimal is rounded as. -/
theorem decimal_eq_ratio (digits : Nat) (exponent : Int) :
    (digits : ℚ) * 10 ^ exponent =
      if 0 ≤ exponent then ((digits * Nat.pow 10 exponent.toNat : Nat) : ℚ) / (1 : Nat)
      else (digits : ℚ) / (Nat.pow 10 (-exponent).toNat : Nat) := by
  split
  · rename_i h
    obtain ⟨k, rfl⟩ := Int.eq_ofNat_of_zero_le h
    rw [Int.toNat_natCast, zpow_natCast]
    push_cast [Nat.pow_eq]
    ring
  · obtain ⟨k, rfl⟩ : ∃ k : Nat, exponent = -(k : Int) := ⟨(-exponent).toNat, by omega⟩
    rw [neg_neg, Int.toNat_natCast, zpow_neg, zpow_natCast]
    push_cast [Nat.pow_eq]
    rfl

theorem greatest_lt_ten_pow : (2 : ℚ) ^ (1024 : Int) < 10 ^ (310 : Int) := by
  have h : 2 ^ 1024 < 10 ^ 310 := by decide +kernel
  exact_mod_cast h

theorem ten_pow_lt_least : (10 : ℚ) ^ (-331 : Int) < 2 ^ (-1075 : Int) := by
  have h : 2 ^ 1075 < 10 ^ 331 := by decide +kernel
  rw [zpow_neg, zpow_neg]
  exact inv_strictAnti₀ (by positivity) (by exact_mod_cast h)

/-- **A decimal between the ends around a double is read as it.** -/
theorem ofDecimal_of_roundsTo (s : Bool) {m : Nat} {e : Int} (hm : Regular m e) (hpos : 0 < m)
    {digits : Nat} {exponent : Int} (h : RoundsTo m e (digits * 10 ^ exponent)) :
    ofDecimal s digits exponent = .finite s m e := by
  have hdigits := h.digits_pos hpos
  obtain ⟨hlow, hhigh⟩ := decimal_bounds hdigits exponent
  -- the sizes at which the answer is given at once lie outside the range of doubles
  have hsmall : ¬ 310 < (decimalLength digits : Int) + exponent := by
    intro hlarge
    have hle : (10 : ℚ) ^ (310 : Int) ≤ 10 ^ (decimalLength digits + exponent - 1 : Int) :=
      zpow_le_zpow_right₀ (by norm_num) (by omega)
    have hlt : (digits : ℚ) * 10 ^ exponent < 2 ^ (1024 : Int) :=
      lt_of_lt_of_le (h.lt hm.small) (two_zpow_le_iff.mpr (by have := hm.greatest; omega))
    exact lt_irrefl _ ((hle.trans hlow).trans_lt (hlt.trans greatest_lt_ten_pow))
  have hlarge : ¬ (decimalLength digits : Int) + exponent < -330 := by
    intro hsmall
    have hle : (10 : ℚ) ^ (decimalLength digits + exponent : Int) ≤ 10 ^ (-331 : Int) :=
      zpow_le_zpow_right₀ (by norm_num) (by omega)
    have hge : (2 : ℚ) ^ (-1075 : Int) ≤ digits * 10 ^ exponent :=
      le_trans (two_zpow_le_iff.mpr (by have := hm.least; omega)) (h.half_le hpos)
    exact lt_irrefl _ ((hge.trans_lt hhigh).trans_le (hle.trans ten_pow_lt_least.le))
  rw [decimal_eq_ratio] at h
  unfold ofDecimal
  simp only [beq_iff_eq, hdigits.ne', hsmall, hlarge, if_false]
  by_cases hexponent : 0 ≤ exponent
  · rw [if_pos hexponent] at h ⊢
    exact ofRatio_of_roundsTo s hm hpos one_pos h
  · rw [if_neg hexponent] at h ⊢
    exact ofRatio_of_roundsTo s hm hpos (Nat.pow_pos (by norm_num)) h

/-- **Every decimal is read as a regular double.** -/
theorem regular_ofDecimal (s : Bool) (digits : Nat) (exponent : Int) :
    (ofDecimal s digits exponent).IsRegular := by
  unfold ofDecimal
  split
  · exact regular_zero s
  · simp only
    split
    · trivial
    · split
      · exact regular_zero s
      · split
        · exact regular_ofRatio s _ one_pos
        · exact regular_ofRatio s _ (Nat.pow_pos (by norm_num))

/-! ## 6. Arithmetic and numerals -/

theorem Double.IsRegular.negate {x : Double} (h : x.IsRegular) : x.negate.IsRegular := by
  cases x with
  | finite s m e => exact h
  | nan => trivial
  | infinite s => trivial

/-- Sums are rounded. -/
theorem regular_add (x y : Double) : (x.add y).IsRegular := by
  unfold Double.add
  split
  · trivial
  · trivial
  · split <;> trivial
  · trivial
  · trivial
  · simp only
    split
    · exact regular_ofRatio _ _ one_pos
    · exact regular_ofRatio _ _ (Nat.pow_pos (by norm_num))

theorem regular_unsigned? {negative : Bool} {s : List Char} {x : Double}
    (h : unsigned? negative s = some x) : x.IsRegular := by
  have hparts {whole fraction rest : List Char}
      (h : (if whole.isEmpty && fraction.isEmpty then none
        else (exponent? rest).map (readDecimal negative whole fraction)) = some x) :
      x.IsRegular := by
    split at h
    · cases h
    · obtain ⟨exponent, _, rfl⟩ := Option.map_eq_some_iff.mp h
      exact regular_ofDecimal _ _ _
  unfold unsigned? at h
  exact hparts h

/-- **Every double that a text writes is regular.** -/
theorem regular_float? {s : List Char} {x : Double} (h : float? s = some x) : x.IsRegular := by
  unfold float? at h
  simp only at h
  split at h
  · exact Option.some.inj h ▸ trivial
  · split at h
    · exact Option.some.inj h ▸ trivial
    · exact regular_unsigned? h

end SchemaRecords.Number

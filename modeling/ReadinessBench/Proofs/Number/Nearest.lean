import Mathlib.Algebra.Order.Ring.Pow
import ReadinessBench.Proofs.Number.Rounding

/-!
# The nearest number

What is computed is the number nearest to the exact result among all that have at most 53 bits, be
they zero, subnormal or too large for the format, and of two as near it is the one with the even
mantissa. Its relative error is at most `2^-53`, and relative errors of several steps add up as
factors do. Main statement: `correct_ofRatio`.
-/

namespace ReadinessBench.Binary64

variable {x y : Binary64} {n d i j k m : Nat} {a b c q : ℚ} {e : ℤ}

/-- No other number is nearer to `q`, and if another is as near, this is the even one. -/
structure Nearest (q : ℚ) (x : Binary64) : Prop where
  canonical : x = zero ∨ x.IsNormal
  least : ∀ y : Binary64, y.mantissa < 2 * leastMantissa → |x.value - q| ≤ |y.value - q|
  even : ∀ y : Binary64, y.mantissa < 2 * leastMantissa → y.value ≠ x.value →
    |y.value - q| = |x.value - q| → x.mantissa % 2 = 0

/-- Two whole numbers are one unit apart at least, so that only one is less than half away. -/
theorem NearestWhole.half_le (h : NearestWhole q m) (hne : k ≠ m) : 1 / 2 ≤ |(k : ℚ) - q| := by
  have happart : (1 : ℚ) ≤ |(k : ℚ) - m| := by
    have hint : (1 : ℤ) ≤ |(k : ℤ) - m| := Int.one_le_abs (by omega)
    exact_mod_cast hint
  have hnear := h.le_half
  rw [abs_sub_comm] at hnear
  linarith [abs_sub_le (k : ℚ) q m]

/-- In units of `2 ^ e` a number of 53 bits is a whole number, or too small to have 53 bits there. -/
theorem whole_or_small (hy : y.mantissa < 2 * leastMantissa) (e : ℤ) :
    (∃ k : Nat, y.value = k * 2 ^ e) ∨ y.value < 2 ^ (52 : ℤ) * 2 ^ e := by
  rcases le_or_gt e y.exponent with hle | hlt
  · refine Or.inl ⟨y.mantissa * 2 ^ (y.exponent - e).toNat, ?_⟩
    have hexp : (((y.exponent - e).toNat : ℕ) : ℤ) = y.exponent - e := Int.toNat_of_nonneg (by omega)
    rw [value, Nat.cast_mul, Nat.cast_pow, Nat.cast_ofNat, ← zpow_natCast, hexp, mul_assoc,
      ← zpow_add₀ (by norm_num), sub_add_cancel]
  · have hmost : (y.mantissa : ℚ) < 2 * leastMantissa := by exact_mod_cast hy
    have hunit : 2 * (2 : ℚ) ^ y.exponent ≤ 2 ^ e := by
      rw [← two_zpow_succ]
      exact two_zpow_le (by omega)
    apply Or.inr
    rw [← leastMantissa_eq, value]
    calc (y.mantissa : ℚ) * 2 ^ y.exponent
        < 2 * leastMantissa * 2 ^ y.exponent := mul_lt_mul_of_pos_right hmost (two_zpow_pos _)
      _ = leastMantissa * (2 * 2 ^ y.exponent) := by ring
      _ ≤ leastMantissa * 2 ^ e := mul_le_mul_of_nonneg_left hunit (Nat.cast_nonneg _)

/-- Any other number is further away, or as far and the number is even. -/
theorem RoundedAt.lt_or_even (h : RoundedAt e m q x) (hy : y.mantissa < 2 * leastMantissa)
    (hne : y.value ≠ x.value) :
    |x.value - q| < |y.value - q| ∨ |x.value - q| = |y.value - q| ∧ x.mantissa % 2 = 0 := by
  have hpos := two_zpow_pos e
  have hwhole {k : Nat} (hk : k ≠ m) : |x.value - q| < |(k : ℚ) * 2 ^ e - q| ∨
      |x.value - q| = |(k : ℚ) * 2 ^ e - q| ∧ x.mantissa % 2 = 0 := by
    rw [h.value_eq, abs_sub_eq, abs_sub_eq]
    have hfar := h.nearest.half_le hk
    rcases h.nearest with hless | ⟨htie, heven⟩
    · exact Or.inl (mul_lt_mul_of_pos_right (hless.trans_le hfar) hpos)
    · rw [← htie] at hfar
      rcases hfar.lt_or_eq with hlt | heq
      · exact Or.inl (mul_lt_mul_of_pos_right hlt hpos)
      · exact Or.inr ⟨by rw [heq], h.even heven⟩
  rcases whole_or_small hy e with ⟨k, hk⟩ | hsmall
  · rw [hk]
    apply hwhole
    rintro rfl
    exact hne (hk.trans h.value_eq.symm)
  · -- the least number of 53 bits lies between the two
    have hleast : |x.value - q| ≤ |(leastMantissa : ℚ) * 2 ^ e - q| := by
      by_cases hm : leastMantissa = m
      · rw [h.value_eq, hm]
      · rcases hwhole hm with hlt | heq
        · exact hlt.le
        · exact heq.1.le
    have hlow := (le_div_iff₀ hpos).mp h.low
    rw [leastMantissa_eq, abs_sub_comm _ q, abs_sub_comm _ q,
      abs_of_nonneg (sub_nonneg.mpr hlow)] at hleast
    apply Or.inl
    rw [abs_sub_comm _ q, abs_sub_comm _ q, abs_of_pos (sub_pos.mpr (hsmall.trans_le hlow))]
    exact hleast.trans_lt (sub_lt_sub_left hsmall q)

theorem RoundedAt.nearest_value (h : RoundedAt e m q x) : Nearest q x := by
  refine ⟨Or.inr h.normal, fun y hy => ?_, fun y hy hne heq => ?_⟩
  · by_cases hne : y.value = x.value
    · rw [hne]
    · rcases h.lt_or_even hy hne with hlt | htie
      · exact hlt.le
      · exact htie.1.le
  · rcases h.lt_or_even hy hne with hlt | htie
    · exact absurd heq hlt.ne'
    · exact htie.2

theorem nearest_zero : Nearest 0 zero := by
  refine ⟨Or.inl rfl, fun y _ => ?_, fun _ _ _ _ => rfl⟩
  rw [value_zero, sub_zero, abs_zero]
  exact abs_nonneg _

theorem ofRatio_zero (d : Nat) : ofRatio 0 d = zero := if_pos rfl

/-! ## Relative errors -/

/-- The greatest relative error of one step. -/
def unitRoundoff : ℚ := 1 / 2 ^ 53

/-- The one is the other after `k` steps that are off by `unitRoundoff` of their result at most. -/
def Off (k : Nat) (a b : ℚ) : Prop :=
  b * (1 - unitRoundoff) ^ k ≤ a ∧ a * (1 - unitRoundoff) ^ k ≤ b

theorem unitRoundoff_lt : 0 < 1 - unitRoundoff ∧ 1 - unitRoundoff ≤ 1 := by
  norm_num [unitRoundoff]

theorem factor_pos (k : Nat) : 0 < (1 - unitRoundoff) ^ k := pow_pos unitRoundoff_lt.1 k

theorem Off.trans (h : Off j a b) (hbc : Off k b c) : Off (j + k) a c := by
  constructor
  · calc c * (1 - unitRoundoff) ^ (j + k)
        = c * (1 - unitRoundoff) ^ k * (1 - unitRoundoff) ^ j := by ring
      _ ≤ b * (1 - unitRoundoff) ^ j := mul_le_mul_of_nonneg_right hbc.1 (factor_pos j).le
      _ ≤ a := h.1
  · calc a * (1 - unitRoundoff) ^ (j + k)
        = a * (1 - unitRoundoff) ^ j * (1 - unitRoundoff) ^ k := by ring
      _ ≤ b * (1 - unitRoundoff) ^ k := mul_le_mul_of_nonneg_right h.2 (factor_pos k).le
      _ ≤ c := hbc.2

theorem Off.mono (h : Off j a b) (hjk : j ≤ k) (ha : 0 ≤ a) (hb : 0 ≤ b) : Off k a b := by
  have hpow : (1 - unitRoundoff) ^ k ≤ (1 - unitRoundoff) ^ j :=
    pow_le_pow_of_le_one unitRoundoff_lt.1.le unitRoundoff_lt.2 hjk
  exact ⟨(mul_le_mul_of_nonneg_left hpow hb).trans h.1,
    (mul_le_mul_of_nonneg_left hpow ha).trans h.2⟩

theorem Off.add {c d : ℚ} (h : Off k a b) (hcd : Off k c d) : Off k (a + c) (b + d) := by
  refine ⟨?_, ?_⟩ <;> rw [add_mul]
  · exact add_le_add h.1 hcd.1
  · exact add_le_add h.2 hcd.2

/-- The errors of the two sides of a quotient add up. -/
theorem Off.div {c d : ℚ} (h : Off j a b) (hcd : Off k c d) (hc : 0 < c) (hd : 0 < d)
    (ha : 0 ≤ a) (hb : 0 ≤ b) : Off (j + k) (a / c) (b / d) := by
  constructor
  · rw [le_div_iff₀ hc]
    calc b / d * (1 - unitRoundoff) ^ (j + k) * c
        = b * (1 - unitRoundoff) ^ j * (c * (1 - unitRoundoff) ^ k) / d := by ring
      _ ≤ a * d / d := by
        apply div_le_div_of_nonneg_right _ hd.le
        exact mul_le_mul h.1 hcd.2 (mul_nonneg hc.le (factor_pos k).le) ha
      _ = a := mul_div_cancel_right₀ a hd.ne'
  · rw [le_div_iff₀ hd]
    calc a / c * (1 - unitRoundoff) ^ (j + k) * d
        = a * (1 - unitRoundoff) ^ j * (d * (1 - unitRoundoff) ^ k) / c := by ring
      _ ≤ b * c / c := by
        apply div_le_div_of_nonneg_right _ hc.le
        exact mul_le_mul h.2 hcd.1 (mul_nonneg hd.le (factor_pos k).le) hb
      _ = b := mul_div_cancel_right₀ b hc.ne'

/-- Half a unit of the last of 53 bits. -/
theorem RoundedAt.off (h : RoundedAt e m q x) : Off 1 x.value q := by
  have hpos := two_zpow_pos e
  have hlow := (le_div_iff₀ hpos).mp h.low
  -- half a unit is this part of the number itself
  have hhalf : 2 ^ e / 2 ≤ q * unitRoundoff := by
    calc (2 : ℚ) ^ e / 2 = 2 ^ (52 : ℤ) * 2 ^ e * unitRoundoff := by
          norm_num [unitRoundoff]
          ring
      _ ≤ q * unitRoundoff := mul_le_mul_of_nonneg_right hlow (by norm_num [unitRoundoff])
  have hnear : |x.value - q| ≤ 2 ^ e / 2 := by
    rw [h.value_eq, abs_sub_eq]
    have hscaled := mul_le_mul_of_nonneg_right h.nearest.le_half hpos.le
    linarith
  have hbounds := abs_le.mp (hnear.trans hhalf)
  have hroundoff : 0 < unitRoundoff := by norm_num [unitRoundoff]
  constructor
  · linarith
  · have hsquare : 0 ≤ q * unitRoundoff * unitRoundoff := by
      have hq : 0 ≤ q := (mul_pos (two_zpow_pos 52) hpos).le.trans hlow
      exact mul_nonneg (mul_nonneg hq hroundoff.le) hroundoff.le
    have hupper : x.value * (1 - unitRoundoff) ≤ (q + q * unitRoundoff) * (1 - unitRoundoff) := by
      apply mul_le_mul_of_nonneg_right _ unitRoundoff_lt.1.le
      linarith
    linarith

/-- The number is `q` correctly rounded. -/
structure Correct (q : ℚ) (x : Binary64) : Prop where
  nearest : Nearest q x
  off : Off 1 x.value q

theorem correct_ofRatio (n : Nat) (hd : 0 < d) : Correct ((n : ℚ) / d) (ofRatio n d) := by
  rcases Nat.eq_zero_or_pos n with rfl | hn
  · rw [ofRatio_zero, Nat.cast_zero, div_eq_mul_inv, zero_mul]
    refine ⟨nearest_zero, ?_⟩
    rw [value_zero, Off, zero_mul]
    exact ⟨le_rfl, le_rfl⟩
  · obtain ⟨e, m, h⟩ := roundedAt_ofRatio hn hd
    exact ⟨h.nearest_value, h.off⟩

theorem correct_ofNat (n : Nat) : Correct n (ofNat n) := by
  have h := correct_ofRatio n Nat.one_pos
  rwa [Nat.cast_one, div_one] at h

theorem correct_add (x y : Binary64) : Correct (x.value + y.value) (x + y) := by
  rw [← sum_eq]
  exact correct_ofRatio _ (Nat.mul_pos x.den_pos y.den_pos)

theorem correct_div (x : Binary64) (hy : 0 < y.value) : Correct (x.value / y.value) (x / y) := by
  have hnum : 0 < y.num := Nat.pos_of_ne_zero fun hzero => by
    rw [← num_div_den, hzero, Nat.cast_zero, div_eq_mul_inv, zero_mul] at hy
    exact lt_irrefl _ hy
  rw [← quotient_eq]
  exact correct_ofRatio _ (Nat.mul_pos x.den_pos hnum)

end ReadinessBench.Binary64

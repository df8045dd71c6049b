import Mathlib.Algebra.Order.Field.Power
import Mathlib.Data.Rat.Cast.Order
import Mathlib.Tactic.Linarith
import Mathlib.Tactic.NormNum
import Mathlib.Tactic.Positivity
import Mathlib.Tactic.Ring
import ReadinessBench.Number.Binary64

/-!
# Rounding to 53 bits

A quotient is rounded to a number with a mantissa of exactly 53 bits, and the number is off by half
a unit of its last bit at most. So a number computed from others lies between the same powers of two
as the exact result, or one power further out. Numbers far from the ends of the double format stay
in it. Main statements: `roundedAt_ofRatio` and `Between.isDouble`.
-/

namespace ReadinessBench.Binary64

/-- The number as a fraction. -/
def value (x : Binary64) : ℚ := x.mantissa * 2 ^ x.exponent

/-- The mantissa has exactly 53 bits. -/
def IsNormal (x : Binary64) : Prop := leastMantissa ≤ x.mantissa ∧ x.mantissa < 2 * leastMantissa

/-- The number is one of the double format and neither subnormal nor infinite. -/
def IsDouble (x : Binary64) : Prop :=
  x = zero ∨ x.IsNormal ∧ -1074 ≤ x.exponent ∧ x.exponent ≤ 971

variable {x y : Binary64} {n d : Nat} {q : ℚ} {lo hi a b c e : ℤ}

/-! ## Powers of two -/

theorem two_zpow_pos (e : ℤ) : (0 : ℚ) < 2 ^ e := zpow_pos (by norm_num) e

theorem two_zpow_le (h : a ≤ b) : (2 : ℚ) ^ a ≤ 2 ^ b := zpow_le_zpow_right₀ (by norm_num) h

theorem le_of_two_zpow_lt (h : (2 : ℚ) ^ a < 2 ^ b) : a < b :=
  (zpow_lt_zpow_iff_right₀ (by norm_num)).mp h

theorem two_zpow_succ (e : ℤ) : (2 : ℚ) ^ (e + 1) = 2 * 2 ^ e := by
  rw [zpow_add_one₀ (by norm_num), mul_comm]

/-- A power of two as a fraction of whole numbers, one of which is 1. -/
theorem two_zpow_eq (e : ℤ) :
    (2 : ℚ) ^ e = (Nat.pow 2 e.toNat : ℚ) / (Nat.pow 2 (-e).toNat : ℚ) := by
  have hsplit : (e.toNat : ℤ) - ((-e).toNat : ℤ) = e := Int.toNat_sub_toNat_neg e
  rw [← hsplit, zpow_sub₀ (by norm_num), zpow_natCast, zpow_natCast, hsplit]
  push_cast [Nat.pow_eq]
  rfl

theorem leastMantissa_eq : ((leastMantissa : Nat) : ℚ) = 2 ^ (52 : ℤ) := by
  norm_num [leastMantissa]

theorem log2_bounds (hn : 0 < n) :
    (2 : ℚ) ^ (n.log2 : ℤ) ≤ n ∧ (n : ℚ) < 2 ^ ((n.log2 : ℤ) + 1) := by
  have hlow : 2 ^ n.log2 ≤ n := Nat.log2_self_le (Nat.ne_of_gt hn)
  have hhigh : n < 2 ^ (n.log2 + 1) := Nat.lt_log2_self
  constructor
  · rw [zpow_natCast]
    exact_mod_cast hlow
  · have hcast : ((n.log2 : ℤ) + 1) = ((n.log2 + 1 : Nat) : ℤ) := by push_cast; rfl
    rw [hcast, zpow_natCast]
    exact_mod_cast hhigh

/-! ## Quotients in units -/

theorem num_div_den (x : Binary64) : (x.num : ℚ) / x.den = x.value := by
  rw [value, two_zpow_eq, num, den]
  push_cast
  rw [mul_div_assoc]

theorem den_pos (x : Binary64) : 0 < x.den := Nat.pow_pos (by decide)

/-- The fraction that is rounded to a sum. -/
theorem sum_eq (x y : Binary64) :
    ((x.num * y.den + y.num * x.den : Nat) : ℚ) / (x.den * y.den : Nat) = x.value + y.value := by
  have hx : (x.den : ℚ) ≠ 0 := by exact_mod_cast x.den_pos.ne'
  have hy : (y.den : ℚ) ≠ 0 := by exact_mod_cast y.den_pos.ne'
  rw [← num_div_den, ← num_div_den, div_add_div _ _ hx hy]
  push_cast
  ring

/-- The fraction that is rounded to a quotient. -/
theorem quotient_eq (x y : Binary64) :
    ((x.num * y.den : Nat) : ℚ) / (x.den * y.num : Nat) = x.value / y.value := by
  rw [← num_div_den, ← num_div_den, div_div_div_eq]
  push_cast
  rfl

theorem inUnits_div (n d : Nat) (e : ℤ) :
    ((inUnits n d e).1 : ℚ) / (inUnits n d e).2 = (n : ℚ) / d / 2 ^ e := by
  rw [two_zpow_eq, inUnits]
  push_cast
  rw [div_div_eq_mul_div, div_mul_eq_mul_div, div_div]

theorem inUnits_pos (hd : 0 < d) : 0 < (inUnits n d e).2 :=
  Nat.mul_pos hd (Nat.pow_pos (by decide))

/-- The quotient of numbers with so many bits. -/
theorem ratio_bounds (hn : 0 < n) (hd : 0 < d) :
    (2 : ℚ) ^ ((n.log2 : ℤ) - d.log2 - 1) < (n : ℚ) / d ∧
      (n : ℚ) / d < 2 ^ ((n.log2 : ℤ) - d.log2 + 1) := by
  obtain ⟨hnlow, hnhigh⟩ := log2_bounds hn
  obtain ⟨hdlow, hdhigh⟩ := log2_bounds hd
  have hdpos : (0 : ℚ) < d := by exact_mod_cast hd
  constructor
  · rw [lt_div_iff₀ hdpos]
    calc (2 : ℚ) ^ ((n.log2 : ℤ) - d.log2 - 1) * d
        < 2 ^ ((n.log2 : ℤ) - d.log2 - 1) * 2 ^ ((d.log2 : ℤ) + 1) :=
          mul_lt_mul_of_pos_left hdhigh (two_zpow_pos _)
      _ = 2 ^ (n.log2 : ℤ) := by
          rw [← zpow_add₀ (by norm_num)]
          congr 1
          omega
      _ ≤ n := hnlow
  · rw [div_lt_iff₀ hdpos]
    calc (n : ℚ) < 2 ^ ((n.log2 : ℤ) + 1) := hnhigh
      _ = 2 ^ ((n.log2 : ℤ) - d.log2 + 1) * 2 ^ (d.log2 : ℤ) := by
          rw [← zpow_add₀ (by norm_num)]
          congr 1
          omega
      _ ≤ 2 ^ ((n.log2 : ℤ) - d.log2 + 1) * d :=
          mul_le_mul_of_nonneg_left hdlow (two_zpow_pos _).le

/-- In units of the chosen power the whole part of the quotient has 53 bits. -/
theorem unitExponent_spec (hn : 0 < n) (hd : 0 < d) :
    (2 : ℚ) ^ (52 : ℤ) ≤ (n : ℚ) / d / 2 ^ unitExponent n d ∧
      (n : ℚ) / d / 2 ^ unitExponent n d < 2 ^ (53 : ℤ) := by
  obtain ⟨hlow, hhigh⟩ := ratio_bounds hn hd
  unfold unitExponent
  dsimp only
  generalize hg : (n.log2 : ℤ) - d.log2 - 52 = g at *
  have hunits := inUnits_div n d g
  have hpos : 0 < (inUnits n d g).2 := inUnits_pos hd
  have hposℚ : (0 : ℚ) < (inUnits n d g).2 := by exact_mod_cast hpos
  -- the guess is right or one too high
  have hsmall : (inUnits n d g).1 / (inUnits n d g).2 < leastMantissa ↔
      (n : ℚ) / d / 2 ^ g < 2 ^ (52 : ℤ) := by
    rw [Nat.div_lt_iff_lt_mul hpos, ← hunits, div_lt_iff₀ hposℚ, ← leastMantissa_eq]
    exact_mod_cast Iff.rfl
  split
  · next hlt =>
    rw [hsmall, div_lt_iff₀ (two_zpow_pos g), ← zpow_add₀ (by norm_num)] at hlt
    rw [le_div_iff₀ (two_zpow_pos _), div_lt_iff₀ (two_zpow_pos _), ← zpow_add₀ (by norm_num),
      ← zpow_add₀ (by norm_num)]
    constructor
    · exact (two_zpow_le (by omega)).trans hlow.le
    · exact hlt.trans_le (two_zpow_le (by omega))
  · next hge =>
    rw [hsmall, not_lt] at hge
    refine ⟨hge, ?_⟩
    rw [div_lt_iff₀ (two_zpow_pos g), ← zpow_add₀ (by norm_num)]
    exact hhigh.trans_le (two_zpow_le (by omega))

/-! ## Rounding -/

/-- The whole number is less than half a unit away, or half a unit away and even. -/
def NearestWhole (q : ℚ) (m : Nat) : Prop :=
  |(m : ℚ) - q| < 1 / 2 ∨ |(m : ℚ) - q| = 1 / 2 ∧ m % 2 = 0

theorem NearestWhole.le_half {m : Nat} (h : NearestWhole q m) : |(m : ℚ) - q| ≤ 1 / 2 := by
  rcases h with hless | htie
  · exact hless.le
  · exact htie.1.le

theorem nearestWhole_roundQuotient (hd : 0 < d) :
    NearestWhole ((n : ℚ) / d) (roundQuotient n d) := by
  have hdpos : (0 : ℚ) < d := by exact_mod_cast hd
  have hsplit : (n : ℚ) / d = (n / d : Nat) + ((n % d : Nat) : ℚ) / d := by
    rw [add_div' _ _ _ hdpos.ne', div_left_inj' hdpos.ne']
    exact_mod_cast (Nat.div_add_mod' n d).symm
  -- the rest is compared with half a unit, as the definition does
  have hless : ((n % d : Nat) : ℚ) / d < 1 := by
    rw [div_lt_one hdpos]
    exact_mod_cast Nat.mod_lt n hd
  have hnonneg : (0 : ℚ) ≤ ((n % d : Nat) : ℚ) / d := by positivity
  rw [hsplit]
  unfold roundQuotient
  dsimp only
  split
  · next hdown =>
    have hhalf : ((n % d : Nat) : ℚ) / d < 1 / 2 := by
      rw [div_lt_div_iff₀ hdpos (by norm_num), one_mul, mul_comm]
      exact_mod_cast hdown
    apply Or.inl
    rw [abs_lt]
    constructor <;> linarith
  · next hnotdown =>
    split
    · next hup =>
      have hhalf : 1 / 2 < ((n % d : Nat) : ℚ) / d := by
        rw [div_lt_div_iff₀ (by norm_num) hdpos, one_mul, mul_comm]
        exact_mod_cast hup
      apply Or.inl
      rw [abs_lt]
      push_cast
      constructor <;> linarith
    · next hnotup =>
      -- a tie: either neighbour is half a unit away
      have htie : 2 * (n % d) = d := by omega
      have hhalf : ((n % d : Nat) : ℚ) / d = 1 / 2 := by
        rw [div_eq_div_iff hdpos.ne' (by norm_num), one_mul, mul_comm]
        exact_mod_cast htie
      refine Or.inr ⟨?_, by omega⟩
      rw [hhalf]
      rcases Nat.mod_two_eq_zero_or_one (n / d) with heven | hodd
      · rw [heven, Nat.add_zero, sub_add_cancel_left, abs_neg]
        norm_num
      · rw [hodd, Nat.cast_add_one, add_sub_add_left_eq_sub]
        norm_num

/-- A whole number next to one with a 53-bit whole part has 53 bits itself, or is the next power of
two. -/
theorem mantissa_bounds {m : Nat} (hnear : |(m : ℚ) - q| ≤ 1 / 2)
    (hlow : (2 : ℚ) ^ (52 : ℤ) ≤ q) (hhigh : q < 2 ^ (53 : ℤ)) :
    leastMantissa ≤ m ∧ m ≤ 2 * leastMantissa := by
  rw [abs_le] at hnear
  have hdouble : (2 : ℚ) ^ (53 : ℤ) = 2 * 2 ^ (52 : ℤ) := two_zpow_succ 52
  rw [hdouble] at hhigh
  rw [← leastMantissa_eq] at hlow hhigh
  constructor
  · have hlt : (leastMantissa : ℚ) < m + 1 := by linarith
    exact Nat.lt_succ_iff.mp (by exact_mod_cast hlt)
  · have hlt : (m : ℚ) < 2 * leastMantissa + 1 := by linarith
    exact Nat.lt_succ_iff.mp (by exact_mod_cast hlt)

/-- The number is `q` rounded in units of `2 ^ e`, in which `q` has a whole part of 53 bits. -/
structure RoundedAt (e : ℤ) (m : Nat) (q : ℚ) (x : Binary64) : Prop where
  low : (2 : ℚ) ^ (52 : ℤ) ≤ q / 2 ^ e
  high : q / 2 ^ e < 2 ^ (53 : ℤ)
  nearest : NearestWhole (q / 2 ^ e) m
  normal : x.IsNormal
  value_eq : x.value = m * 2 ^ e
  unit_le : (2 : ℚ) ^ e ≤ 2 ^ x.exponent
  even : m % 2 = 0 → x.mantissa % 2 = 0

theorem roundedAt_ofRatio (hn : 0 < n) (hd : 0 < d) :
    ∃ e m, RoundedAt e m ((n : ℚ) / d) (ofRatio n d) := by
  obtain ⟨hlow, hhigh⟩ := unitExponent_spec hn hd
  unfold ofRatio
  rw [if_neg hn.ne']
  dsimp only
  generalize unitExponent n d = e at *
  have hnearest := nearestWhole_roundQuotient (n := (inUnits n d e).1)
    (inUnits_pos (n := n) (e := e) hd)
  rw [inUnits_div] at hnearest
  generalize roundQuotient (inUnits n d e).1 (inUnits n d e).2 = m at *
  obtain ⟨hleast, hmost⟩ := mantissa_bounds hnearest.le_half hlow hhigh
  refine ⟨e, m, ?_⟩
  split
  · next hcarry =>
    -- the same number with a mantissa of one bit less
    have hsame : (leastMantissa : ℚ) * 2 ^ (e + 1) = m * 2 ^ e := by
      rw [hcarry, two_zpow_succ]
      push_cast
      ring
    have hbits : leastMantissa < 2 * leastMantissa := by decide
    have heven : leastMantissa % 2 = 0 := by decide
    have hunit : (2 : ℚ) ^ e ≤ 2 ^ (e + 1) := two_zpow_le (by omega)
    exact ⟨hlow, hhigh, hnearest, ⟨Nat.le_refl _, hbits⟩, hsame, hunit, fun _ => heven⟩
  · next hless =>
    exact ⟨hlow, hhigh, hnearest, ⟨hleast, Nat.lt_of_le_of_ne hmost hless⟩, rfl, le_rfl, id⟩

/-- A distance in units of `2 ^ e`. -/
theorem abs_sub_eq (a q : ℚ) (e : ℤ) :
    |a * 2 ^ e - q| = |a - q / 2 ^ e| * 2 ^ e := by
  have hpos := two_zpow_pos e
  rw [← abs_of_pos hpos, ← abs_mul, abs_of_pos hpos, sub_mul, div_mul_cancel₀ _ hpos.ne']

/-- The number is `q` rounded: it has a mantissa of 53 bits and is off by half a unit at most. -/
structure Rounds (q : ℚ) (x : Binary64) : Prop where
  normal : x.IsNormal
  near : |x.value - q| ≤ 2 ^ x.exponent / 2

theorem RoundedAt.rounds {m : Nat} (h : RoundedAt e m q x) : Rounds q x := by
  refine ⟨h.normal, ?_⟩
  rw [h.value_eq, abs_sub_eq]
  calc |(m : ℚ) - q / 2 ^ e| * 2 ^ e ≤ 1 / 2 * 2 ^ e :=
        mul_le_mul_of_nonneg_right h.nearest.le_half (two_zpow_pos e).le
    _ ≤ 1 / 2 * 2 ^ x.exponent := mul_le_mul_of_nonneg_left h.unit_le (by norm_num)
    _ = 2 ^ x.exponent / 2 := by ring

theorem rounds_ofRatio (hn : 0 < n) (hd : 0 < d) : Rounds ((n : ℚ) / d) (ofRatio n d) := by
  obtain ⟨e, m, h⟩ := roundedAt_ofRatio hn hd
  exact h.rounds

theorem IsNormal.two_zpow_le_value (h : x.IsNormal) :
    (2 : ℚ) ^ (x.exponent + 52) ≤ x.value := by
  have hleast : (leastMantissa : ℚ) ≤ x.mantissa := by exact_mod_cast h.1
  rw [value, add_comm, zpow_add₀ (by norm_num), ← leastMantissa_eq]
  exact mul_le_mul_of_nonneg_right hleast (two_zpow_pos _).le

theorem IsNormal.value_lt (h : x.IsNormal) : x.value < 2 ^ (x.exponent + 53) := by
  have hmost : (x.mantissa : ℚ) < 2 * leastMantissa := by exact_mod_cast h.2
  have hpower : (2 : ℚ) ^ (x.exponent + 53) = 2 * leastMantissa * 2 ^ x.exponent := by
    rw [leastMantissa_eq, ← two_zpow_succ, ← zpow_add₀ (by norm_num)]
    congr 1
    omega
  rw [value, hpower]
  exact mul_lt_mul_of_pos_right hmost (two_zpow_pos _)

/-- Rounding neither halves nor doubles. -/
theorem Rounds.value_bounds (h : Rounds q x) : q / 2 ≤ x.value ∧ x.value ≤ 2 * q := by
  have hnear := abs_le.mp h.near
  have hunit : (2 : ℚ) ^ x.exponent ≤ x.value / 2 := by
    rw [le_div_iff₀ (by norm_num), mul_comm, ← two_zpow_succ]
    exact (two_zpow_le (by omega)).trans h.normal.two_zpow_le_value
  constructor <;> linarith [two_zpow_pos x.exponent]

/-! ## Between powers of two -/

/-- The number is not zero and lies between two powers of two. -/
structure Between (lo hi : ℤ) (x : Binary64) : Prop where
  normal : x.IsNormal
  le_value : (2 : ℚ) ^ lo ≤ x.value
  value_le : x.value ≤ 2 ^ hi

theorem Between.pos (h : Between lo hi x) : 0 < x.value := (two_zpow_pos lo).trans_le h.le_value

theorem Between.ne_zero (h : Between lo hi x) : x ≠ zero := by
  rintro rfl
  exact absurd h.normal.1 (by decide)

/-- The exponent follows the power of two that the number reaches. -/
theorem Between.isDouble (h : Between lo hi x) (hlo : -1022 ≤ lo) (hhi : hi ≤ 1023) :
    x.IsDouble := by
  have hlow := le_of_two_zpow_lt (h.le_value.trans_lt h.normal.value_lt)
  have hhigh : x.exponent + 52 < hi + 1 := by
    apply le_of_two_zpow_lt
    exact (h.normal.two_zpow_le_value.trans h.value_le).trans_lt
      (zpow_lt_zpow_right₀ (by norm_num) (by omega))
  exact Or.inr ⟨h.normal, by omega, by omega⟩

theorem between_ofRatio (hlo : (2 : ℚ) ^ lo ≤ (n : ℚ) / d) (hhi : (n : ℚ) / d ≤ 2 ^ hi) :
    Between (lo - 1) (hi + 1) (ofRatio n d) := by
  have hpos : (0 : ℚ) < (n : ℚ) / d := (two_zpow_pos lo).trans_le hlo
  have hn : 0 < n := Nat.pos_of_ne_zero fun h => by simp [h] at hpos
  have hd : 0 < d := Nat.pos_of_ne_zero fun h => by simp [h] at hpos
  have hrounds := rounds_ofRatio hn hd
  obtain ⟨hhalf, hdouble⟩ := hrounds.value_bounds
  refine ⟨hrounds.normal, ?_, ?_⟩
  · have hpower := two_zpow_succ (lo - 1)
    rw [sub_add_cancel] at hpower
    linarith
  · rw [two_zpow_succ]
    linarith

theorem between_ofNat (hlo : (2 : ℚ) ^ lo ≤ n) (hhi : (n : ℚ) ≤ 2 ^ hi) :
    Between (lo - 1) (hi + 1) (ofNat n) := by
  apply between_ofRatio
  · rwa [Nat.cast_one, div_one]
  · rwa [Nat.cast_one, div_one]

theorem between_add (hlo : (2 : ℚ) ^ lo ≤ x.value + y.value) (hhi : x.value + y.value ≤ 2 ^ hi) :
    Between (lo - 1) (hi + 1) (x + y) := by
  rw [← sum_eq] at hlo hhi
  exact between_ofRatio hlo hhi

theorem between_div (hx : Between a b x) (hy : Between c e y) :
    Between (a - e - 1) (b - c + 1) (x / y) := by
  apply between_ofRatio
  · rw [quotient_eq, le_div_iff₀ hy.pos]
    calc (2 : ℚ) ^ (a - e) * y.value ≤ 2 ^ (a - e) * 2 ^ e :=
          mul_le_mul_of_nonneg_left hy.value_le (two_zpow_pos _).le
      _ = 2 ^ a := by rw [← zpow_add₀ (by norm_num), sub_add_cancel]
      _ ≤ x.value := hx.le_value
  · rw [quotient_eq, div_le_iff₀ hy.pos]
    calc x.value ≤ 2 ^ b := hx.value_le
      _ = 2 ^ (b - c) * 2 ^ c := by rw [← zpow_add₀ (by norm_num), sub_add_cancel]
      _ ≤ 2 ^ (b - c) * y.value := mul_le_mul_of_nonneg_left hy.le_value (two_zpow_pos _).le

theorem value_zero : zero.value = 0 := by
  rw [value, zero, Nat.cast_zero, zero_mul]

theorem ofNat_zero : ofNat 0 = zero := rfl

theorem zero_div (y : Binary64) : zero / y = zero := by
  show ofRatio (0 * y.den) _ = zero
  rw [Nat.zero_mul, ofRatio, if_pos rfl]

end ReadinessBench.Binary64

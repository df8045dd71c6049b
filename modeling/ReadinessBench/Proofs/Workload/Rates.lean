import ReadinessBench.Proofs.Number.Nearest
import ReadinessBench.Proofs.Workload.Tabulated

/-!
# The values of the rates

A rate is the count divided by the time, both of them as numbers of the double format, and the
quotient is correctly rounded. So is every number on the way, and the rate is therefore within
`2^-50` of itself of the exact count per exact second. Main statements: `correct_rate` and
`rate_near`.
-/

namespace ReadinessBench

open Binary64 (Correct Off ofNat unitRoundoff)

namespace Span

variable {s : Span}

/-- The exact span in seconds. -/
def exact (s : Span) : ℚ := s.seconds + s.nanos / nanosPerSecond

theorem exact_pos (h : s.isPositive = true) : 0 < s.exact := by
  have hunit : (0 : ℚ) < nanosPerSecond := by norm_num [nanosPerSecond]
  rcases isPositive_iff_or.mp h with hpos | hpos
  · have hseconds : (0 : ℚ) < s.seconds := by exact_mod_cast hpos
    exact add_pos_of_pos_of_nonneg hseconds (div_nonneg (Nat.cast_nonneg _) hunit.le)
  · have hnanos : (0 : ℚ) < s.nanos := by exact_mod_cast hpos
    exact add_pos_of_nonneg_of_pos (Nat.cast_nonneg _) (div_pos hnanos hunit)

theorem correct_fraction (s : Span) :
    Correct ((ofNat s.nanos).value / (ofNat nanosPerSecond).value)
      (ofNat s.nanos / ofNat nanosPerSecond) :=
  Binary64.correct_div _ between_nanosPerSecond.pos

theorem correct_inSeconds (s : Span) :
    Correct ((ofNat s.seconds).value + (ofNat s.nanos / ofNat nanosPerSecond).value) s.inSeconds :=
  Binary64.correct_add _ _

/-- Four steps lead to the span in seconds: two conversions, a quotient and a sum. -/
theorem off_inSeconds (s : Span) : Off 4 s.inSeconds.value s.exact := by
  have hunit : (0 : ℚ) < nanosPerSecond := by norm_num [nanosPerSecond]
  have hnanos := (Binary64.correct_ofNat s.nanos).off
  have hquotient := hnanos.div (Binary64.correct_ofNat nanosPerSecond).off
    between_nanosPerSecond.pos hunit (Binary64.value_nonneg _) (Nat.cast_nonneg _)
  have hfraction : Off 3 (ofNat s.nanos / ofNat nanosPerSecond).value (s.nanos / nanosPerSecond) :=
    s.correct_fraction.off.trans hquotient
  have hseconds : Off 3 (ofNat s.seconds).value s.seconds :=
    (Binary64.correct_ofNat s.seconds).off.mono (by decide) (Binary64.value_nonneg _)
      (Nat.cast_nonneg _)
  exact s.correct_inSeconds.off.trans (hseconds.add hfraction)

end Span

namespace Measurement

variable {count : Nat} {s : Span}

/-- **A rate is the correctly rounded quotient.** -/
theorem correct_rate (count : Nat) (h : s.isPositive = true) :
    Correct ((ofNat count).value / s.inSeconds.value) (rate count s) := by
  rw [rate, if_pos h]
  exact Binary64.correct_div _ (Span.between_inSeconds h).pos

theorem off_rate (count : Nat) (h : s.isPositive = true) :
    Off 6 (rate count s).value (count / s.exact) := by
  have hquotient := (Binary64.correct_ofNat count).off.div s.off_inSeconds
    (Span.between_inSeconds h).pos (Span.exact_pos h) (Binary64.value_nonneg _) (Nat.cast_nonneg _)
  exact (correct_rate count h).off.trans hquotient

/-- **A rate is the count per second**, but for this part of it. -/
theorem rate_near (count : Nat) (h : s.isPositive = true) :
    |(rate count s).value - count / s.exact| ≤ count / s.exact * (1 / 2 ^ 50) := by
  obtain ⟨hlow, hhigh⟩ := off_rate count h
  have hexact : (0 : ℚ) ≤ count / s.exact := div_nonneg (Nat.cast_nonneg _) (Span.exact_pos h).le
  generalize (rate count s).value = r at *
  generalize (count : ℚ) / s.exact = x at *
  have hfactor : (1 - unitRoundoff) ^ 6 = (1 - 1 / 2 ^ 53 : ℚ) ^ 6 := rfl
  rw [hfactor] at hlow hhigh
  rw [abs_le]
  norm_num at hlow hhigh ⊢
  constructor <;> linarith

end Measurement

end ReadinessBench

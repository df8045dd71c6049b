import Mathlib.Algebra.Order.Ring.Int
import ReadinessBench.Time.ProcessClock

/-!
# Times in the kernel's words

The kernel hands a time over in two signed words of 64 bits. The seconds are taken without their
sign, the microseconds are cut to 32 bits, and their nanoseconds are held at the largest word of
that width before whole seconds are carried. For times as they are counted nothing of this shows:
the span is exact, and a later time is a longer span. Main statement: `converted_words`.
-/

namespace ReadinessBench

/-! ## Spans in order -/

namespace Span

/-- Spans are compared by their seconds, and then by their nanoseconds. -/
instance : LT Span where
  lt a b := a.seconds < b.seconds ∨ a.seconds = b.seconds ∧ a.nanos < b.nanos

theorem lt_iff_totalNanos_lt {a b : Span} : a < b ↔ a.totalNanos < b.totalNanos := by
  have ha := a.nanos_lt
  have hb := b.nanos_lt
  show a.seconds < b.seconds ∨ a.seconds = b.seconds ∧ a.nanos < b.nanos ↔ _
  simp only [totalNanos, nanosPerSecond] at *
  omega

theorem ofParts_error_iff {seconds nanos : Nat} {r : RangeError} :
    ofParts seconds nanos = .error r ↔
      r = .spanOverflow ∧ UInt64.size ≤ seconds + nanos / nanosPerSecond := by
  unfold ofParts
  split
  · next hfits =>
    refine iff_of_false (fun h => ?_) fun h => Nat.not_le.mpr hfits h.2
    cases h
  · next hlarge =>
    rw [Except.error.injEq, eq_comm]
    exact (and_iff_left (Nat.not_lt.mp hlarge)).symm

end Span

/-! ## Words -/

theorem toNat_toUInt64 (word : Int64) : (word.toUInt64.toNat : Int) = word.toInt % 2 ^ 64 := by
  have hvalue : word.toInt = word.toBitVec.toInt := rfl
  have hlt : word.toBitVec.toNat < 2 ^ 64 := word.toBitVec.isLt
  rw [hvalue, BitVec.toInt_eq_toNat_cond]
  -- a negative word stands for its number and another 2 ^ 64
  show (word.toBitVec.toNat : Int) = _
  split <;> omega

theorem toNat_saturatingMul (a b : UInt32) :
    (saturatingMul a b).toNat = min (2 ^ 32 - 1) (a.toNat * b.toNat) := by
  have hsize : UInt32.size = 2 ^ 32 := rfl
  unfold saturatingMul
  split
  · next hfits =>
    rw [UInt32.toNat_mul, Nat.mod_eq_of_lt hfits]
    omega
  · next hlarge =>
    -- the largest word is below the product
    show 2 ^ 32 - 1 = _
    omega

/-- The nanoseconds that are kept of a number of microseconds. -/
def keptNanos (micros : Int64) : Int := min (2 ^ 32 - 1) (micros.toInt % 2 ^ 32 * 1000)

theorem toNat_micros (micros : Int64) :
    ((saturatingMul micros.toUInt64.toUInt32 1000).toNat : Int) = keptNanos micros := by
  have hword := toNat_toUInt64 micros
  rw [toNat_saturatingMul, UInt64.toNat_toUInt32, keptNanos]
  show ((min (2 ^ 32 - 1) (micros.toUInt64.toNat % 2 ^ 32 * 1000) : Nat) : Int) = _
  omega

theorem keptNanos_lt (micros : Int64) : keptNanos micros < 2 ^ 32 := by
  unfold keptNanos
  omega

/-- Short of the point where the word ends, the microseconds count in full. -/
theorem keptNanos_of_le {micros : Int64} (hnonneg : 0 ≤ micros.toInt)
    (hle : micros.toInt ≤ 4294967) : keptNanos micros = micros.toInt * 1000 := by
  unfold keptNanos
  omega

namespace Span

/-- The words' arithmetic and that of numbers agree. -/
theorem ofWords_eq_ofKernel (seconds micros : Int64) :
    ofWords seconds micros = ofKernel seconds.toInt micros.toInt := by
  have hseconds := toNat_toUInt64 seconds
  have hmicros := toNat_micros micros
  unfold keptNanos at hmicros
  have hword : UInt32.size = 2 ^ 32 := rfl
  have hlong : UInt64.size = 2 ^ 64 := rfl
  unfold ofWords ofKernel
  rw [hword, hlong]
  congr 1 <;> omega

variable {seconds micros : Int64}

theorem ofWords_error_iff {r : RangeError} :
    ofWords seconds micros = .error r ↔
      r = .spanOverflow ∧ 2 ^ 64 ≤ seconds.toInt % 2 ^ 64 + keptNanos micros / 10 ^ 9 := by
  have hseconds := toNat_toUInt64 seconds
  have hmicros := toNat_micros micros
  have hlong : UInt64.size = 2 ^ 64 := rfl
  rw [ofWords, ofParts_error_iff, nanosPerSecond, hlong]
  refine and_congr_right fun _ => ?_
  omega

theorem ofWords_ok {s : Span} (h : ofWords seconds micros = .ok s) :
    (s.seconds : Int) = seconds.toInt % 2 ^ 64 + keptNanos micros / 10 ^ 9 ∧
      (s.nanos : Int) = keptNanos micros % 10 ^ 9 := by
  have hseconds := toNat_toUInt64 seconds
  have hmicros := toNat_micros micros
  unfold ofWords ofParts at h
  split at h
  · cases h
    simp only [nanosPerSecond]
    omega
  · cases h

theorem exists_ofWords
    (h : seconds.toInt % 2 ^ 64 + keptNanos micros / 10 ^ 9 < 2 ^ 64) :
    ∃ s, ofWords seconds micros = .ok s ∧
      (s.totalNanos : Int) = seconds.toInt % 2 ^ 64 * 10 ^ 9 + keptNanos micros := by
  cases hspan : ofWords seconds micros with
  | error r => exact absurd (ofWords_error_iff.mp hspan).2 (Int.not_le.mpr h)
  | ok s =>
    obtain ⟨hwhole, hrest⟩ := ofWords_ok hspan
    refine ⟨s, rfl, ?_⟩
    simp only [totalNanos, nanosPerSecond]
    omega

/-- A time that is not negative and whose microseconds count in full is exact. -/
theorem exists_ofWords_exact (hseconds : 0 ≤ seconds.toInt) (hnonneg : 0 ≤ micros.toInt)
    (hle : micros.toInt ≤ 4294967) :
    ∃ s, ofWords seconds micros = .ok s ∧
      (s.totalNanos : Int) = seconds.toInt * 10 ^ 9 + micros.toInt * 1000 := by
  have hlt := seconds.toInt_lt
  have hkept := keptNanos_of_le hnonneg hle
  have hwhole : seconds.toInt % 2 ^ 64 = seconds.toInt := Int.emod_eq_of_lt hseconds (by omega)
  have hfits : seconds.toInt % 2 ^ 64 + keptNanos micros / 10 ^ 9 < 2 ^ 64 := by omega
  obtain ⟨s, hs, htotal⟩ := exists_ofWords hfits
  exact ⟨s, hs, by rw [htotal, hwhole, hkept]⟩

end Span

/-- What two words of the kernel come to. -/
structure Converted (seconds micros : Int64) : Prop where
  computed : Span.ofKernel seconds.toInt micros.toInt = Span.ofWords seconds micros
  breaks_iff : ∀ r, Span.ofWords seconds micros = .error r ↔
    r = .spanOverflow ∧ 2 ^ 64 ≤ seconds.toInt % 2 ^ 64 + keptNanos micros / 10 ^ 9
  /-- Only seconds that count backwards come so close to the end of the range. -/
  negative : 2 ^ 64 ≤ seconds.toInt % 2 ^ 64 + keptNanos micros / 10 ^ 9 → seconds.toInt < 0
  returns : seconds.toInt % 2 ^ 64 + keptNanos micros / 10 ^ 9 < 2 ^ 64 →
    ∃ s, Span.ofWords seconds micros = .ok s ∧
      (s.totalNanos : Int) = seconds.toInt % 2 ^ 64 * 10 ^ 9 + keptNanos micros ∧
      (s.seconds : Int) = seconds.toInt % 2 ^ 64 + keptNanos micros / 10 ^ 9 ∧
      (s.nanos : Int) = keptNanos micros % 10 ^ 9
  exact : 0 ≤ seconds.toInt → 0 ≤ micros.toInt → micros.toInt ≤ 4294967 →
    ∃ s, Span.ofWords seconds micros = .ok s ∧
      (s.totalNanos : Int) = seconds.toInt * 10 ^ 9 + micros.toInt * 1000
  /-- Later times, as they are counted, are longer spans. -/
  increasing : ∀ later laterMicros : Int64, IsCounted (seconds.toInt, micros.toInt) →
    IsCounted (later.toInt, laterMicros.toInt) →
      ∃ s t, Span.ofWords seconds micros = .ok s ∧ Span.ofWords later laterMicros = .ok t ∧
        (s < t ↔ seconds < later ∨ seconds = later ∧ micros < laterMicros)

/-- **Times in words become spans.** Both words may be anything. -/
theorem converted_words (seconds micros : Int64) : Converted seconds micros where
  computed := (Span.ofWords_eq_ofKernel seconds micros).symm
  breaks_iff _ := Span.ofWords_error_iff
  negative hlarge := by
    have hlt := seconds.toInt_lt
    have hkept := keptNanos_lt micros
    -- no more than four seconds are carried
    refine Int.not_le.mp fun hnonneg => ?_
    rw [Int.emod_eq_of_lt hnonneg (by omega)] at hlarge
    omega
  returns hfits := by
    obtain ⟨s, hs, htotal⟩ := Span.exists_ofWords hfits
    exact ⟨s, hs, htotal, Span.ofWords_ok hs⟩
  exact := Span.exists_ofWords_exact
  increasing later laterMicros h hlater := by
    obtain ⟨hseconds, -, hmicros, hbelow⟩ := h
    obtain ⟨hlaterSeconds, -, hlaterMicros, hlaterBelow⟩ := hlater
    dsimp only at *
    obtain ⟨s, hs, hfirst⟩ := Span.exists_ofWords_exact hseconds hmicros (by omega)
    obtain ⟨t, ht, hsecond⟩ := Span.exists_ofWords_exact hlaterSeconds hlaterMicros (by omega)
    refine ⟨s, t, hs, ht, ?_⟩
    rw [Span.lt_iff_totalNanos_lt, Int64.lt_iff_toInt_lt, Int64.lt_iff_toInt_lt, ← Int64.toInt_inj]
    omega

/-- A second before the end of the range there is no room for another one. -/
example : Span.ofWords (-1) 1000000 = .error .spanOverflow := rfl

end ReadinessBench

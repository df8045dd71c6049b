import ReadinessBench.Number.Binary64
import ReadinessBench.RangeError

/-!
# Spans of time

A span is a whole number of seconds below `2^64` and a number of nanoseconds below a second.
-/

namespace ReadinessBench

def nanosPerSecond : Nat := 1000000000

/-- A span of time, normalised. -/
structure Span where
  seconds : Nat
  nanos : Nat
  seconds_lt : seconds < UInt64.size := by decide
  nanos_lt : nanos < nanosPerSecond := by decide
  deriving DecidableEq

namespace Span

def zero : Span := ⟨0, 0, by decide, by decide⟩

def totalNanos (s : Span) : Nat := s.seconds * nanosPerSecond + s.nanos

/-- A span of `seconds` and `nanos`; a second or more of nanoseconds carries over. There is no
such span if the seconds leave their range. -/
def ofParts (seconds nanos : Nat) : Except RangeError Span :=
  if h : seconds + nanos / nanosPerSecond < UInt64.size then
    .ok ⟨seconds + nanos / nanosPerSecond, nanos % nanosPerSecond, h,
      Nat.mod_lt _ (by decide)⟩
  else .error .spanOverflow

def plus (a b : Span) : Except RangeError Span :=
  (ofParts (a.seconds + b.seconds) (a.nanos + b.nanos)).mapError fun _ => .spanSumOverflow

def ofSeconds (seconds : UInt64) : Span := ⟨seconds.toNat, 0, seconds.toNat_lt_size, by decide⟩

def ofMillis (millis : UInt64) : Span :=
  ⟨millis.toNat / 1000, millis.toNat % 1000 * 1000000,
    Nat.lt_of_le_of_lt (Nat.div_le_self _ _) millis.toNat_lt_size, by
      have := Nat.mod_lt millis.toNat (show 0 < 1000 by decide)
      simp only [nanosPerSecond]
      omega⟩

def ofNanos (nanos : UInt64) : Span :=
  ⟨nanos.toNat / nanosPerSecond, nanos.toNat % nanosPerSecond,
    Nat.lt_of_le_of_lt (Nat.div_le_self _ _) nanos.toNat_lt_size, Nat.mod_lt _ (by decide)⟩

def isPositive (s : Span) : Bool := s.seconds ≠ 0 || s.nanos ≠ 0

/-- The span in seconds: the whole seconds plus the fraction, each of them rounded. -/
def inSeconds (s : Span) : Binary64 :=
  Binary64.ofNat s.seconds + Binary64.ofNat s.nanos / Binary64.ofNat nanosPerSecond

theorem totalNanos_ofParts {seconds nanos : Nat} {s : Span} (h : ofParts seconds nanos = .ok s) :
    s.totalNanos = seconds * nanosPerSecond + nanos := by
  unfold ofParts at h
  split at h
  · cases h
    simp only [totalNanos, nanosPerSecond]
    omega
  · cases h

theorem ofParts_eq_ok {seconds nanos : Nat}
    (h : seconds + nanos / nanosPerSecond < UInt64.size) :
    ∃ s, ofParts seconds nanos = .ok s ∧ s.seconds = seconds + nanos / nanosPerSecond := by
  rw [ofParts, dif_pos h]
  exact ⟨_, rfl, rfl⟩

/-- Two spans of less than half the range have a sum. -/
theorem plus_eq_ok {a b : Span} (ha : a.seconds < UInt64.size / 2)
    (hb : b.seconds < UInt64.size / 2) : ∃ s, a.plus b = .ok s := by
  have hcarry : (a.nanos + b.nanos) / nanosPerSecond ≤ 1 := by
    have hanos := a.nanos_lt
    have hbnos := b.nanos_lt
    unfold nanosPerSecond at *
    omega
  have hsize : UInt64.size = 0x10000000000000000 := rfl
  obtain ⟨s, hs, -⟩ : ∃ s, ofParts (a.seconds + b.seconds) (a.nanos + b.nanos) = .ok s ∧ _ :=
    ofParts_eq_ok (by omega)
  exact ⟨s, by rw [plus, hs]; rfl⟩

end Span

end ReadinessBench

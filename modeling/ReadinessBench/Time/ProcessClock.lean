import ReadinessBench.Time.Span

/-!
# Processor time

The kernel reports processor time in whole seconds and microseconds, both as signed 64-bit words,
or in ticks as part of a line of text.
-/

namespace ReadinessBench

/-- The span that the kernel's `seconds` and `micros` stand for. The seconds are taken as an
unsigned word. Of the microseconds the low 32 bits count, and their nanoseconds stop at the
largest 32-bit number. -/
def Span.ofKernel (seconds micros : Int) : Except RangeError Span :=
  Span.ofParts (seconds % UInt64.size).toNat
    (min (UInt32.size - 1) ((micros % UInt32.size).toNat * 1000))

/-- A product, or the largest word if it would go beyond that. -/
def saturatingMul (a b : UInt32) : UInt32 :=
  if a.toNat * b.toNat < UInt32.size then a * b else .ofNat (UInt32.size - 1)

/-- The same span, worked out in the words in which the kernel hands its numbers over. -/
def Span.ofWords (seconds micros : Int64) : Except RangeError Span :=
  Span.ofParts seconds.toUInt64.toNat (saturatingMul micros.toUInt64.toUInt32 1000).toNat

/-- The processor time of the program, and that of the kernel on its behalf, each in seconds and
microseconds. -/
def processTime (user system : Int × Int) : Except RangeError Span := do
  let user ← Span.ofKernel user.1 user.2
  let system ← Span.ofKernel system.1 system.2
  user.plus system

/-- A time as the kernel counts it, in signed 64-bit words: it is not negative, and the microseconds
make less than a second. -/
structure IsCounted (time : Int × Int) : Prop where
  seconds_nonneg : 0 ≤ time.1
  seconds_lt : time.1 < 0x8000000000000000
  micros_nonneg : 0 ≤ time.2
  micros_lt : time.2 < 1000000

theorem Span.ofKernel_eq_ok {seconds micros : Int} (h : IsCounted (seconds, micros)) :
    ∃ s, Span.ofKernel seconds micros = .ok s ∧ s.seconds < UInt64.size / 2 := by
  have hsize : UInt64.size = 0x10000000000000000 := rfl
  have hwhole : (seconds % UInt64.size).toNat < UInt64.size / 2 := by
    have hnonneg : 0 ≤ seconds := h.seconds_nonneg
    have hlt : seconds < 0x8000000000000000 := h.seconds_lt
    rw [hsize, Int.emod_eq_of_lt hnonneg (by omega)]
    omega
  have hless : (micros % UInt32.size).toNat * 1000 < nanosPerSecond := by
    have hnonneg : 0 ≤ micros := h.micros_nonneg
    have hlt : micros < 1000000 := h.micros_lt
    have hword : UInt32.size = 0x100000000 := rfl
    rw [hword, Int.emod_eq_of_lt hnonneg (by omega), nanosPerSecond]
    omega
  -- less than a second is left over, so nothing is carried
  have hcarry : min (UInt32.size - 1) ((micros % UInt32.size).toNat * 1000) / nanosPerSecond = 0 :=
    Nat.div_eq_of_lt (Nat.lt_of_le_of_lt (Nat.min_le_right _ _) hless)
  obtain ⟨s, hs, hseconds⟩ : ∃ s, Span.ofKernel seconds micros = .ok s ∧
      s.seconds = (seconds % UInt64.size).toNat +
        min (UInt32.size - 1) ((micros % UInt32.size).toNat * 1000) / nanosPerSecond :=
    Span.ofParts_eq_ok (by omega)
  exact ⟨s, hs, by omega⟩

/-- What the kernel has counted is never too much. -/
theorem processTime_eq_ok {user system : Int × Int} (huser : IsCounted user)
    (hsystem : IsCounted system) : ∃ s, processTime user system = .ok s := by
  obtain ⟨a, hofUser, ha⟩ := Span.ofKernel_eq_ok huser
  obtain ⟨b, hofSystem, hb⟩ := Span.ofKernel_eq_ok hsystem
  obtain ⟨s, hs⟩ := Span.plus_eq_ok ha hb
  refine ⟨s, ?_⟩
  rw [processTime, hofUser, hofSystem]
  exact hs

/-- The number that the digits at the beginning of a text make; zero if there are none. -/
def leadingNumber (text : String) : Nat :=
  (text.toList.takeWhile Char.isDigit).foldl (fun n c => 10 * n + (c.toNat - '0'.toNat)) 0

/-- Nanoseconds in one tick of the kernel's accounts. -/
def nanosPerTick : Nat := 10000000

/-- The processor time in nanoseconds that the kernel's line about a process tells. The line begins
with a name in round brackets, which may hold anything. The twelfth and the thirteenth word behind
it count the ticks spent in the program and in the kernel. -/
def tickedNanos (line : String) : Nat :=
  let words := ((line.splitOn ")").getLastD "").splitOn " "
  (leadingNumber (words.getD 12 "") + leadingNumber (words.getD 13 "")) * nanosPerTick

end ReadinessBench

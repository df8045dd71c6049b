import ReadinessBench.Proofs.Number.Rounding
import ReadinessBench.Workload.Measurement

/-!
# The row of a measurement

Whatever has been measured, the row has as many fields as the header, and every field is a plain
decimal numeral. No number that is computed on the way leaves the double format, and nothing is
divided by zero: a time that has passed is never rounded to zero, however short it was. Main
statement: `tabulated_row`.
-/

namespace ReadinessBench

/-- One or more decimal digits. -/
def IsDigits (text : List Char) : Prop := text ≠ [] ∧ ∀ c ∈ text, c.isDigit = true

/-- Digits, perhaps with a point and more digits behind it. -/
inductive IsNumeral : List Char → Prop where
  | whole {digits : List Char} (h : IsDigits digits) : IsNumeral digits
  | broken {digits places : List Char} (h : IsDigits digits) (hplaces : IsDigits places) :
    IsNumeral (digits ++ '.' :: places)

theorem isDigits_toDigits (n : Nat) : IsDigits (Nat.toDigits 10 n) :=
  ⟨Nat.toDigits_ne_nil, fun _ => Nat.isDigit_of_mem_toDigits (by decide) (by decide)⟩

theorem isDigit_of_mem_zeros {n : Nat} {c : Char} (h : c ∈ List.replicate n '0') :
    c.isDigit = true := by
  rw [List.eq_of_mem_replicate h]
  rfl

theorem IsNumeral.comma_not_mem {text : List Char} (h : IsNumeral text) : ',' ∉ text := by
  have hdigits {digits : List Char} (h : IsDigits digits) : ',' ∉ digits := fun hc =>
    absurd (h.2 ',' hc) (by decide)
  cases h with
  | whole h => exact hdigits h
  | broken h hplaces =>
    intro hc
    rcases List.mem_append.mp hc with hc | hc
    · exact hdigits h hc
    · rcases List.mem_cons.mp hc with hc | hc
      · exact absurd hc (by decide)
      · exact hdigits hplaces hc

namespace Decimal

theorem isDigits_paddedDigits (n width : Nat) : IsDigits (paddedDigits n width) := by
  obtain ⟨hne, hdigits⟩ := isDigits_toDigits n
  refine ⟨fun h => hne (List.append_eq_nil_iff.mp h).2, fun c hc => ?_⟩
  rcases List.mem_append.mp hc with hc | hc
  · exact isDigit_of_mem_zeros hc
  · exact hdigits c hc

theorem isNumeral_positional (d : Decimal) : IsNumeral d.positional := by
  rw [positional]
  dsimp only
  split
  · split
    · exact .whole ⟨List.cons_ne_nil _ _, List.forall_mem_singleton.mpr rfl⟩
    · obtain ⟨hne, hdigits⟩ := isDigits_toDigits d.trimmed.digits
      refine .whole ⟨fun h => hne (List.append_eq_nil_iff.mp h).1, fun c hc => ?_⟩
      rcases List.mem_append.mp hc with hc | hc
      · exact hdigits c hc
      · exact isDigit_of_mem_zeros hc
  · exact .broken (isDigits_toDigits _) (isDigits_paddedDigits _ _)

end Decimal

/-! ## No number leaves the format -/

namespace Binary64

variable {x y : Binary64} {n k : Nat} {lo hi a b c e : ℤ}

/-- The number is zero or lies between two powers of two. -/
def Reaches (lo hi : ℤ) (x : Binary64) : Prop := x = zero ∨ Between lo hi x

theorem Reaches.isDouble (h : Reaches lo hi x) (hlo : -1022 ≤ lo) (hhi : hi ≤ 1023) :
    x.IsDouble := by
  rcases h with hzero | hbetween
  · exact Or.inl hzero
  · exact hbetween.isDouble hlo hhi

theorem Reaches.value_le (h : Reaches lo hi x) : x.value ≤ 2 ^ hi := by
  rcases h with rfl | hbetween
  · rw [value_zero]
    exact (two_zpow_pos hi).le
  · exact hbetween.value_le

theorem value_nonneg (x : Binary64) : 0 ≤ x.value :=
  mul_nonneg (Nat.cast_nonneg _) (two_zpow_pos _).le

theorem between_ofNat_of_lt (hpos : 0 < n) (hlt : n < 2 ^ k) : Between (-1) (k + 1) (ofNat n) := by
  have hlo : (2 : ℚ) ^ (0 : ℤ) ≤ n := by
    rw [zpow_zero]
    exact_mod_cast hpos
  have hhi : (n : ℚ) ≤ 2 ^ (k : ℤ) := by
    rw [zpow_natCast]
    exact_mod_cast hlt.le
  exact between_ofNat hlo hhi

theorem reaches_ofNat (hlt : n < 2 ^ k) : Reaches (-1) (k + 1) (ofNat n) := by
  rcases Nat.eq_zero_or_pos n with rfl | hpos
  · exact Or.inl ofNat_zero
  · exact Or.inr (between_ofNat_of_lt hpos hlt)

theorem reaches_div (hx : Reaches a b x) (hy : Between c e y) :
    Reaches (a - e - 1) (b - c + 1) (x / y) := by
  rcases hx with rfl | hx
  · exact Or.inl (zero_div y)
  · exact Or.inr (between_div hx hy)

end Binary64

open Binary64 (Between Reaches IsDouble ofNat)

namespace Span

variable {s : Span}

theorem isPositive_iff_or : s.isPositive = true ↔ 0 < s.seconds ∨ 0 < s.nanos := by
  simp [isPositive, Nat.pos_iff_ne_zero]

/-- The numbers that are computed on the way to a span in seconds. -/
def computed (s : Span) : List Binary64 :=
  [ofNat s.seconds, ofNat s.nanos, ofNat nanosPerSecond, ofNat s.nanos / ofNat nanosPerSecond,
    s.inSeconds]

theorem between_nanosPerSecond : Between 28 31 (ofNat nanosPerSecond) := by
  have hlo : (2 : ℚ) ^ (29 : ℤ) ≤ nanosPerSecond := by norm_num [nanosPerSecond]
  have hhi : (nanosPerSecond : ℚ) ≤ 2 ^ (30 : ℤ) := by norm_num [nanosPerSecond]
  exact Binary64.between_ofNat hlo hhi

theorem reaches_seconds (s : Span) : Reaches (-1) 65 (ofNat s.seconds) :=
  Binary64.reaches_ofNat (k := 64) s.seconds_lt

theorem reaches_fraction (s : Span) : Reaches (-33) 4 (ofNat s.nanos / ofNat nanosPerSecond) := by
  have hnanos : s.nanos < 2 ^ 30 := s.nanos_lt.trans (by decide)
  exact Binary64.reaches_div (Binary64.reaches_ofNat hnanos) between_nanosPerSecond

/-- Some time has passed, and it is not rounded to none. -/
theorem between_inSeconds (h : s.isPositive = true) : Between (-34) 67 s.inSeconds := by
  have hhigh : (ofNat s.seconds).value + (ofNat s.nanos / ofNat nanosPerSecond).value ≤
      2 ^ (66 : ℤ) := by
    have hseconds := s.reaches_seconds.value_le
    have hfraction := s.reaches_fraction.value_le
    norm_num at hseconds hfraction ⊢
    linarith
  have hlow : (2 : ℚ) ^ (-33 : ℤ) ≤
      (ofNat s.seconds).value + (ofNat s.nanos / ofNat nanosPerSecond).value := by
    have hseconds := (ofNat s.seconds).value_nonneg
    have hfraction := (ofNat s.nanos / ofNat nanosPerSecond).value_nonneg
    -- one of the two parts is not zero, and the other takes nothing away
    rcases isPositive_iff_or.mp h with hpos | hpos
    · have hleast := (Binary64.between_ofNat_of_lt (k := 64) hpos s.seconds_lt).le_value
      have hpower : (2 : ℚ) ^ (-33 : ℤ) ≤ 2 ^ (-1 : ℤ) := Binary64.two_zpow_le (by decide)
      exact hpower.trans (hleast.trans (le_add_of_nonneg_right hfraction))
    · have hnanos : s.nanos < 2 ^ 30 := s.nanos_lt.trans (by decide)
      have hleast := (Binary64.between_div (Binary64.between_ofNat_of_lt hpos hnanos)
        between_nanosPerSecond).le_value
      exact hleast.trans (le_add_of_nonneg_left hseconds)
  exact Binary64.between_add hlow hhigh

theorem eq_zero_of_not_isPositive (h : s.isPositive = false) : s = zero := by
  obtain ⟨seconds, nanos, hseconds, hnanos⟩ := s
  rw [isPositive, Bool.or_eq_false_iff, decide_eq_false_iff_not, decide_eq_false_iff_not, not_not,
    not_not] at h
  obtain ⟨rfl, rfl⟩ := h
  rfl

theorem reaches_inSeconds (s : Span) : Reaches (-34) 67 s.inSeconds := by
  cases h : s.isPositive with
  | true => exact Or.inr (between_inSeconds h)
  | false =>
    rw [eq_zero_of_not_isPositive h]
    exact Or.inl rfl

theorem isDouble_of_mem_computed {x : Binary64} (hx : x ∈ s.computed) : x.IsDouble := by
  have hnanos : s.nanos < 2 ^ 30 := s.nanos_lt.trans (by decide)
  simp only [computed, List.mem_cons, List.not_mem_nil, or_false] at hx
  rcases hx with rfl | rfl | rfl | rfl | rfl
  · exact s.reaches_seconds.isDouble (by decide) (by decide)
  · exact (Binary64.reaches_ofNat hnanos).isDouble (by decide) (by decide)
  · exact between_nanosPerSecond.isDouble (by decide) (by decide)
  · exact s.reaches_fraction.isDouble (by decide) (by decide)
  · exact s.reaches_inSeconds.isDouble (by decide) (by decide)

end Span

namespace Measurement

variable {m : Measurement} {count : Nat} {s : Span}

/-- Nothing in any time, and anything in no time, is a rate of zero. -/
theorem rate_of_idle (h : s = .zero ∨ count = 0) : rate count s = Binary64.zero := by
  unfold rate
  rcases h with rfl | rfl
  · rfl
  · split
    · exact Binary64.zero_div _
    · rfl

theorem isDouble_rate (hcount : count < 2 ^ 64) : (rate count s).IsDouble := by
  unfold rate
  split
  · next hpositive =>
    have hrate := Binary64.reaches_div (Binary64.reaches_ofNat hcount)
      (Span.between_inSeconds hpositive)
    exact hrate.isDouble (by decide) (by decide)
  · exact Or.inl rfl

/-- All numbers that are computed on the way to a row. -/
def computed (m : Measurement) : List Binary64 :=
  m.duration.computed ++ m.cpu.computed ++ [ofNat m.roundTrips, m.perSecond, m.perCpuSecond]

/-- What a row looks like, and that it is made of numbers. -/
structure Tabulated (m : Measurement) : Prop where
  header : (header.toList.splitOn ',').length = 5
  arity : (m.row.toList.splitOn ',').length = 5
  numerals : ∀ field ∈ m.row.toList.splitOn ',', IsNumeral field
  roundTrips : ∃ field, (m.row.toList.splitOn ',')[1]? = some field ∧ IsDigits field ∧
    Nat.ofDigitChars 10 field 0 = m.roundTrips ∧ field = Nat.toDigits 10 m.roundTrips
  perSecond : m.duration = .zero ∨ m.roundTrips = 0 →
    (m.row.toList.splitOn ',')[2]? = some ['0']
  perCpuSecond : m.cpu = .zero ∨ m.roundTrips = 0 → (m.row.toList.splitOn ',')[4]? = some ['0']
  /-- Neither an infinity nor a number that is none arises, nor a subnormal number. -/
  doubles : ∀ x ∈ m.computed, x.IsDouble
  /-- A rate of a time that has passed is divided by no zero. -/
  divisors : ∀ s ∈ [m.duration, m.cpu], s ≠ .zero → s.inSeconds ≠ Binary64.zero

theorem isNumeral_field {text : String} (h : text ∈ m.fields) : IsNumeral text.toList := by
  have hreport (d : Decimal) : IsNumeral d.reportText.toList := by
    rw [Decimal.reportText, String.toList_ofList]
    exact d.isNumeral_positional
  have hcount : IsNumeral (toString m.roundTrips).toList := by
    rw [Nat.toString_eq_repr, Nat.toList_repr]
    exact .whole (isDigits_toDigits _)
  simp only [fields, List.mem_cons, List.not_mem_nil, or_false] at h
  rcases h with rfl | rfl | rfl | rfl | rfl
  · exact hreport _
  · exact hcount
  · exact hreport _
  · exact hreport _
  · exact hreport _

/-- No field has a comma, so that the row comes apart into its fields. -/
theorem splitOn_row (m : Measurement) : m.row.toList.splitOn ',' = m.fields.map String.toList := by
  rw [row, String.toList_intercalate]
  apply List.splitOn_intercalate
  · intro text htext
    obtain ⟨field, hfield, rfl⟩ := List.mem_map.mp htext
    exact (isNumeral_field hfield).comma_not_mem
  · exact List.cons_ne_nil _ _

theorem reportText_zero : (Binary64.zero.shortest.reportText).toList = ['0'] := by
  rw [Decimal.reportText, String.toList_ofList]
  rfl

theorem isDouble_of_mem_computed {x : Binary64} (htrips : m.roundTrips < 2 ^ 64)
    (hx : x ∈ m.computed) : x.IsDouble := by
  rcases List.mem_append.mp hx with hx | hx
  · rcases List.mem_append.mp hx with hx | hx
    · exact Span.isDouble_of_mem_computed hx
    · exact Span.isDouble_of_mem_computed hx
  · simp only [List.mem_cons, List.not_mem_nil, or_false] at hx
    rcases hx with rfl | rfl | rfl
    · exact (Binary64.reaches_ofNat htrips).isDouble (by decide) (by decide)
    · exact isDouble_rate htrips
    · exact isDouble_rate htrips

/-- **Every measurement makes a well-formed row.** The times are any spans, and the count is any
number of 64 bits. -/
theorem tabulated_row (duration cpu : Span) (roundTrips : UInt64) :
    Tabulated ⟨duration, roundTrips.toNat, cpu⟩ := by
  have hsplit := splitOn_row ⟨duration, roundTrips.toNat, cpu⟩
  refine ⟨by decide +kernel, ?_, ?_, ?_, ?_, ?_, ?_, ?_⟩
  · rw [hsplit]
    rfl
  · rw [hsplit]
    intro field hfield
    obtain ⟨text, htext, rfl⟩ := List.mem_map.mp hfield
    exact isNumeral_field htext
  · refine ⟨Nat.toDigits 10 roundTrips.toNat, ?_, isDigits_toDigits _,
      Nat.ofDigitChars_toDigits (by decide) (by decide), rfl⟩
    rw [hsplit]
    show some (toString roundTrips.toNat).toList = _
    rw [Nat.toString_eq_repr, Nat.toList_repr]
  · intro hidle
    rw [hsplit]
    show some (rate roundTrips.toNat duration).shortest.reportText.toList = _
    rw [rate_of_idle hidle, reportText_zero]
  · intro hidle
    rw [hsplit]
    show some (rate roundTrips.toNat cpu).shortest.reportText.toList = _
    rw [rate_of_idle hidle, reportText_zero]
  · exact fun x hx => isDouble_of_mem_computed roundTrips.toNat_lt hx
  · intro s _ hpassed
    cases hpositive : s.isPositive with
    | true => exact (Span.between_inSeconds hpositive).ne_zero
    | false => exact absurd (Span.eq_zero_of_not_isPositive hpositive) hpassed

/-- A nanosecond is not rounded to no time. -/
example : row ⟨⟨0, 1, by decide, by decide⟩, 3, .zero⟩ = "0.000000001,3,3000000000,0,0" := by
  decide +kernel

end Measurement

end ReadinessBench

/-!
# Numbers out of range

A few computations have no result when a number leaves its range. None of these is an error that a
caller handles: whatever is going on ends there.
-/

namespace ReadinessBench

/-- A number left its range and the computation cannot go on. -/
inductive RangeError where
  /-- A span of time has more than `2^64 - 1` seconds. -/
  | spanOverflow
  /-- So does a sum of two spans. -/
  | spanSumOverflow
  /-- Room for so many items would take more bytes than can be addressed. -/
  | reservationOverflow
  /-- A sum does not fit into its word. -/
  | sumOverflow
  /-- A negative number has no positive counterpart of the same width. -/
  | negationOverflow
  deriving DecidableEq, Repr

def RangeError.message : RangeError → String
  | spanOverflow => "overflow in Duration::new"
  | spanSumOverflow => "overflow when adding durations"
  | reservationOverflow => "capacity overflow"
  | sumOverflow => "attempt to add with overflow"
  | negationOverflow => "attempt to negate with overflow"

end ReadinessBench

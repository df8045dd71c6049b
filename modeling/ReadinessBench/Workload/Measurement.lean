import ReadinessBench.Number.Written
import ReadinessBench.Time.Span

/-!
# Measurements

What a run has measured and the two lines in which it is written down: a header and a row of five
fields, separated by commas.
-/

namespace ReadinessBench

/-- The measured figures of one run. -/
structure Measurement where
  duration : Span
  roundTrips : Nat
  cpu : Span
  deriving DecidableEq

namespace Measurement

/-- How many per second; zero if no time has passed. -/
def rate (count : Nat) (span : Span) : Binary64 :=
  if span.isPositive then Binary64.ofNat count / span.inSeconds else Binary64.zero

def perSecond (m : Measurement) : Binary64 := rate m.roundTrips m.duration

def perCpuSecond (m : Measurement) : Binary64 := rate m.roundTrips m.cpu

def header : String :=
  "Duration (s),Total Roundtrips,Roundtrips/sec,CPU usage (s),Roundtrips/cpusec"

def fields (m : Measurement) : List String := [
  m.duration.inSeconds.shortest.reportText,
  toString m.roundTrips,
  m.perSecond.shortest.reportText,
  m.cpu.inSeconds.shortest.reportText,
  m.perCpuSecond.shortest.reportText]

def row (m : Measurement) : String := ",".intercalate m.fields

/-- The two lines in which a measurement is written down. -/
def lines (m : Measurement) : List String := [header ++ "\n", m.row ++ "\n"]

def text (m : Measurement) : String := String.join m.lines

end Measurement

end ReadinessBench

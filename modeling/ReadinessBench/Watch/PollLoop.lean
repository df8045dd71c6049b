import ReadinessBench.Watch.Duty

/-!
# Waiting with poll

The worker hands the kernel one slot per descriptor, the stop request first, and finds in each slot
what has happened. It looks at the stop request before it echoes anything.
-/

namespace ReadinessBench

structure PollSlot where
  number : Int
  events : Int16
  happened : Int16
  deriving DecidableEq

namespace PollSlot

/-- The event that there is something to read. -/
def readEvent : Int16 := 1

def fresh (number : Int) : PollSlot := ⟨number, readEvent, 0⟩

/-- There is something to read. Other events alone, such as a hang-up, do not count. -/
def isReadable (s : PollSlot) : Bool := s.happened &&& readEvent ≠ 0

/-- The slot as the kernel leaves it. -/
def report (number : Nat) (readable : Bool) : PollSlot :=
  { fresh number with happened := if readable then readEvent else 0 }

end PollSlot

namespace PollLoop

/-- What is handed to the kernel, the same for every wait: the slot of the stop request, then one
per watched pair. -/
def interest (stopNumber : Nat) (watched : List Watched) : List PollSlot :=
  .fresh stopNumber :: watched.map fun w => .fresh w.number

/-- Handles one wake-up: the slot of the stop request, then one slot per watched pair. -/
def wake (stop : PollSlot) (slots : List PollSlot) (d : Duty) : Verdict × Duty :=
  let (ended, d) := if stop.isReadable then d.acknowledge else (false, d)
  if ended then (.exit, d)
  else
    (.goOn, (slots.zip d.watched).foldl
      (fun d (slot, w) => if slot.isReadable then d.echo w.pair else d) d)

end PollLoop

end ReadinessBench

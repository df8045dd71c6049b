import ReadinessBench.Command.Program
import ReadinessBench.Time.ProcessClock

/-!
# The outer layer of the program

Reads the clocks, gives the traffic its turns until the time is up, and prints what is left behind.
Everything else is decided in the library.
-/

namespace ReadinessBench.Command

/-- The span between two readings of a clock that counts nanoseconds. -/
def between (first last : Nat) : Span := .ofNanos (UInt64.ofNat (last - first))

/-- The processor time of this process in nanoseconds; zero if the kernel does not tell. -/
def processorNanos : IO Nat := do
  try return tickedNanos (← IO.FS.readFile "/proc/self/stat")
  catch _ => return 0

/-- Round trips from one look at the clock to the next. -/
def roundTripsPerTurn : Nat := 64

/-- Gives the traffic turns until it ends or the clock has reached `limit`. -/
partial def keepGoing (limit : Nat) (t : Traffic) : IO Traffic := do
  let t := t.proceed roundTripsPerTurn
  if t.workload.isOver then return t
  else if limit ≤ (← IO.monoNanosNow) then return t.expire
  else keepGoing limit t

def Job.perform (j : Job) : IO Outcome := do
  match j.setUp with
  | .error o => return o
  | .ok (u, b) =>
    let start ← IO.monoNanosNow
    let cpuStart ← processorNanos
    let draw : Draw := ⟨start⟩
    let t ← keepGoing (start + j.plan.duration.totalNanos) (u.traffic draw b)
    let stop ← IO.monoNanosNow
    let cpuStop ← processorNanos
    return j.outcome u t ⟨between start stop, between cpuStart cpuStop⟩

end ReadinessBench.Command

open ReadinessBench Command

def main (arguments : List String) : IO UInt32 := do
  let o ← match job arguments with
    | .error o => pure o
    | .ok j => j.perform
  IO.print o.stdout
  IO.eprint o.stderr
  return UInt32.ofNat o.exitCode

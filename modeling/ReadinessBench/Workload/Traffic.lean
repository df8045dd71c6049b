import ReadinessBench.Bench.Basic
import ReadinessBench.Timer
import ReadinessBench.Workload.Basic
import ReadinessBench.Workload.Draw

/-!
# Traffic on the bench

The workload at work: its writes and reads go to the pairs of the bench, engines echo in between,
draws come from a seed, and a timer bounds how long it goes on. The time is up when a read has to
wait for data that nobody sends. Where every pair echoes, how many round trips fit into the time is
no matter of the traffic, so their number is given.
-/

namespace ReadinessBench

structure Traffic where
  workload : Workload
  draw : Draw
  timer : Timer := {}
  /-- The positions of the pairs, in the order in which the workload counts them. -/
  pairs : List Nat
  bench : Bench

structure TrafficEnd where
  roundTrips : Nat
  fault : Option BenchError
  timeUp : Bool
  deriving DecidableEq

namespace Traffic

/-- The time is up: the timer cancels the token and interrupts. -/
def alarm (t : Traffic) : Traffic :=
  let (cancels, timer) := t.timer.untilInterrupt
  { t with timer, bench := if cancels then t.bench.cancel else t.bench }

/-- The position of the pair of this round trip. -/
def target (t : Traffic) : Nat := t.pairs.getD t.workload.current 0

/-- Gives the workload what it waits for. -/
def advance (t : Traffic) : Traffic :=
  match t.workload.stage with
  | .ready | .sent _ | .received _ => { t with workload := t.workload.look t.bench.cancelled }
  | .sending =>
    let (result, bench) := t.bench.send t.target t.workload.message.contents
    { t with workload := t.workload.wrote result, bench := bench.settle }
  | .receiving =>
    match t.bench.receive t.target t.workload.message.size with
    | (.wouldWait, _) =>
      let t := t.alarm
      { t with workload := t.workload.read (.error Timer.interruption) }
    | (receipt, bench) => { t with workload := t.workload.read (.ok receipt.data), bench }
  | .drawing =>
    let (pair, draw) := t.draw.below t.workload.pairs
    { t with workload := t.workload.drew pair, draw }
  | .over _ => t

/-- One round trip: three looks, a write, a read and a draw. -/
def roundTrip (t : Traffic) : Traffic :=
  t.advance.advance.advance.advance.advance.advance

/-- Round trips until the traffic ends, at most so many. -/
def proceed (t : Traffic) : Nat → Traffic
  | 0 => t
  | n + 1 => if t.workload.isOver then t else t.roundTrip.proceed n

/-- The time is up between two round trips, unless the traffic has ended already. -/
def expire (t : Traffic) : Traffic := if t.workload.isOver then t else t.alarm.advance

/-- Round trips until the traffic ends; the time is up at the latest after so many. -/
def run (t : Traffic) (roundTrips : Nat) : Traffic := (t.proceed roundTrips).expire

def ending (t : Traffic) : TrafficEnd :=
  ⟨t.workload.roundTrips, t.workload.fault, t.timer.phase ≠ .counting⟩

def report (t : Traffic) : Bench :=
  let b := match t.workload.fault with
    | some e => t.bench.record (.workloadFaulted e)
    | none => t.bench
  b.record (.workloadFinished t.workload.roundTrips)

end Traffic

namespace Bench

/-- Prepares a workload on so many pairs with messages of this size. -/
def prepare (b : Bench) (pairs messageSize : Nat) : Except BenchError Workload × Bench :=
  if pairs = 0 then (.error (.invalidOption "num-fds"), b)
  else if messageSize = 0 then (.error (.invalidOption "msg-size"), b)
  else
    match b.allocate messageSize with
    | (none, b) => (.ok { pairs, message := .zeroed messageSize }, b)
    | (some f, b) => (.error (.resource Buffer.context f), b)

/-- How many round trips are made at most if the time is up only when a read has to wait. A pair
that does not echo ends the traffic sooner or later, and a count of round trips has 64 bits. Where
every pair echoes nothing ends the traffic, and one round trip is as good as any number. -/
def tripsUntilIdle (b : Bench) (pairs : List Nat) : Nat :=
  if pairs.all b.echoes then 1 else UInt64.size

def drive (b : Bench) (w : Workload) (pairs : List Nat) (draw : Draw) (roundTrips : Nat) :
    TrafficEnd × Bench :=
  let t := ({ workload := w, draw, pairs, bench := b : Traffic }).run roundTrips
  (t.ending, t.report)

end Bench

end ReadinessBench

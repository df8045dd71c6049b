import ReadinessBench.Bench.Fleet
import ReadinessBench.Workload.Traffic

/-!
# A run

A run opens its pairs, creates its engines, arms its timer, drives the traffic until the time is up
or the token is cancelled, and takes everything down again in reverse order. If something cannot be
had, nothing is left of what came before. A fault of the traffic is no error of the run but part of
its end.
-/

namespace ReadinessBench

/-- How long the traffic of a run goes on. -/
inductive Patience where
  /-- Until a fault, or a read that has to wait for data that nobody sends. -/
  | untilIdle
  /-- For so many round trips, if no read has to wait before. -/
  | roundTrips (n : Nat)
  deriving DecidableEq, Repr

/-- The number of round trips after which the time is up. -/
def Patience.limit (p : Patience) (b : Bench) (pairs : List Nat) : Nat :=
  match p with
  | untilIdle => b.tripsUntilIdle pairs
  | roundTrips n => n

structure Underway where
  pairs : List Nat
  fleet : Fleet
  workload : Workload

def Underway.traffic (u : Underway) (draw : Draw) (b : Bench) : Traffic :=
  { workload := u.workload, draw, pairs := u.pairs, bench := b }

namespace Backend

variable {State : Type}

/-- Sets a run up: the pairs, then the engines, then the workload and its timer. Whatever fails
takes down what came before it. -/
def begin (k : Backend State) (p : Plan) (s : State) :
    Except RangeError (Except BenchError Underway × State) :=
  let s := k.record (.runStarting k.name p) s
  match (k.bench s).openPairs p.pairs with
  | (.error e, b) => .ok (.error e, k.setBench b s)
  | (.ok pairs, b) =>
    match Fleet.create k p p.engines pairs (k.setBench b s) with
    | .error r => .error r
    | .ok (.error e, s) => .ok (.error e, k.update (·.dropPairs pairs) s)
    | .ok (.ok fleet, s) =>
      match (k.bench s).prepare pairs.length p.messageSize with
      | (.error e, b) =>
        .ok (.error e, k.update (·.dropPairs pairs) (fleet.destroy k (k.setBench b s)))
      | (.ok workload, b) =>
        match b.arm with
        | (some e, b) =>
          .ok (.error e, k.update (·.dropPairs pairs) (fleet.destroy k (k.setBench b s)))
        | (none, b) => .ok (.ok { pairs, fleet, workload }, k.setBench b s)

def conclude (k : Backend State) (u : Underway) (t : Traffic) (s : State) : State :=
  let s := u.fleet.destroy k (k.setBench t.report s)
  let s := k.update (·.dropPairs u.pairs) s
  k.record (.runFinished t.ending.roundTrips t.ending.fault.isSome) s

def run (k : Backend State) (p : Plan) (draw : Draw) (patience : Patience) (s : State) :
    Except RangeError (Except BenchError TrafficEnd × State) :=
  match k.begin p s with
  | .error r => .error r
  | .ok (.error e, s) => .ok (.error e, s)
  | .ok (.ok u, s) =>
    let b := k.bench s
    let t := (u.traffic draw b).run (patience.limit b u.pairs)
    .ok (.ok t.ending, k.conclude u t s)

end Backend

end ReadinessBench

import ReadinessBench.Watch.Duty

/-!
# A thread for each descriptor

Without any readiness mechanism every pair has a worker of its own that blocks in its read. Such
workers cannot wait for a stop request. Ending them takes a flag and interruptions, repeated until
all have noticed: in every round all workers still running are interrupted, and those that have
finished by then are joined.
-/

namespace ReadinessBench

/-- A group of workers that is being ended. -/
structure ThreadGroup where
  /-- The workers not joined yet, in the order in which they were started. -/
  running : List Nat
  /-- The workers that have been joined, in that order. -/
  joined : List Nat := []
  /-- The interruptions sent so far, by worker. -/
  interrupted : List Nat := []
  deriving DecidableEq, Repr

namespace ThreadGroup

def ofSize (n : Nat) : ThreadGroup := { running := List.range n }

/-- One round: all running workers are interrupted, then the finished ones are joined. -/
def round (g : ThreadGroup) (finished : Nat → Bool) : ThreadGroup where
  running := g.running.filter (!finished ·)
  joined := g.joined ++ g.running.filter finished
  interrupted := g.interrupted ++ g.running

/-- Rounds until all are joined or nothing more is known about who has finished when. -/
def wind (g : ThreadGroup) : List (Nat → Bool) → ThreadGroup
  | [] => g
  | finished :: rest =>
    if g.running.isEmpty then g else (g.round finished).wind rest

/-- One worker's loop: an echo step each time the stop flag is found unset. -/
def serve (pair : Nat) : List Bool → Duty → Duty
  | [], d => d
  | stopped :: rest, d => if stopped then d else serve pair rest (d.echo pair)

end ThreadGroup

end ReadinessBench

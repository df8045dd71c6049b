import ReadinessBench.RangeError
import ReadinessBench.Socket.Echo
import ReadinessBench.Watch.StopCounter

/-!
# A worker's duty

What one worker touches while it handles a wake-up: the pairs it watches, its buffer, the stop
request of its engine, and the sockets it shares with everyone else. However a worker is told what
is readable, all it ever does is echo on a watched pair or acknowledge the stop request.
-/

namespace ReadinessBench

/-- A watched pair and the descriptor number of its engines' end. -/
structure Watched where
  pair : Nat
  number : Nat
  deriving DecidableEq, Repr

/-- Everything a worker touches. -/
structure Duty where
  watched : List Watched
  buffer : Buffer
  stop : StopCounter
  sockets : Array SocketPair

/-- Whether a worker waits again after a wake-up. -/
inductive Verdict where
  | goOn
  | exit
  /-- The worker breaks down over a number that left its range. -/
  | collapse (r : RangeError)
  deriving DecidableEq, Repr

namespace Duty

def echo (d : Duty) (pair : Nat) : Duty :=
  match d.sockets[pair]? with
  | none => d
  | some p =>
    let (_, buffer, p) := p.echo d.buffer
    { d with buffer, sockets := d.sockets.setIfInBounds pair p }

/-- Acknowledges the stop request; whether there was one. -/
def acknowledge (d : Duty) : Bool × Duty :=
  let (raised, stop) := d.stop.acknowledge
  (raised, { d with stop })

def hasRequest (d : Duty) (pair : Nat) : Bool :=
  match d.sockets[pair]? with
  | some p => !p.requests.waiting.isEmpty
  | none => false

/-- How many bytes wait for an echo on the watched pairs; a pair that is watched twice counts
twice. -/
def backlog (d : Duty) : Nat :=
  (d.watched.map fun w =>
    match d.sockets[w.pair]? with
    | some p => p.requests.waiting.length
    | none => 0).foldr (· + ·) 0

end Duty

end ReadinessBench

import ReadinessBench.Bench.Fleet

/-!
# Sessions

A session is a script of single steps on one bench: opening pairs, creating and destroying engines,
moving bytes, and driving a worker by hand. Each step has an answer; an error is the answer of its
step, and the session goes on.
-/

namespace ReadinessBench

structure EngineWish where
  kind : Mechanism
  messageSize : Nat
  exclusive : Bool
  /-- The mechanism for which the plan is checked. -/
  planKind : Mechanism
  /-- The pairs to watch, all of them if not given. -/
  endpoints : Option (List Nat)
  /-- How many engines; a single one if not given. -/
  count : Option Nat

/-- One step of a session. Pairs are counted among those that the session holds. -/
inductive SessionStep where
  /-- Opens pairs and drops the former ones; the engines' ends of the first pairs are moved to the
  given descriptor numbers. -/
  | pairs (count : Nat) (moves : List Nat)
  | dropPairs
  | engine (wish : EngineWish)
  | destroy (slot : Nat)
  | trip (pair : Nat) (data : Bytes)
  | write (pair : Nat) (data : Bytes)
  | feed (pair : Nat) (data : Bytes)
  /-- Reads at the generator's end, without waiting. -/
  | read (pair max : Nat)
  /-- Reads at the engines' end, without waiting. -/
  | drain (pair max : Nat)
  | echo (pair size : Nat)
  | setBlocking (pair : Nat)
  | nonblocking (pair : Nat)
  | shutdown (pair : Nat) (e : SocketPair.End) (d : SocketPair.Direction)
  | budget (free : Option Nat)
  | fill (below : Nat)
  | unfill
  /-- Interrupts the waits of worker threads, which they repeat. -/
  | interrupt
  | runStopped (kind : Mechanism) (pair messageSize : Nat)
  /-- Drives traffic until it has to wait for data. -/
  | generate (messageSize : Nat) (seed : UInt64) (cancelled : Bool)
  /-- Makes a worker with a ring that is driven by hand. -/
  | ring (endpoints : Option (List Nat)) (messageSize : Nat) (exclusive : Bool)
  | ringDrop
  | ringRaise
  | ringArm (pair : Nat) (token : UInt64)
  | ringComplete (token : UInt64) (result : Int32) (times : Nat)

structure PairsSummary where
  count : Nat
  /-- For each pair, whether a read at the engines' end does not wait. -/
  nonblocking : List Bool

inductive SlotKind where
  | engine
  | fleet
  | empty
  deriving DecidableEq, Repr

inductive SessionAnswer where
  | done
  | refused (e : BenchError)
  | failed (f : Failure)
  /-- The computation left its range; the session ends. -/
  | collapsed (r : RangeError)
  | pairs (s : PairsSummary)
  | engine (name : String) (workers : Nat)
  | fleet (count workers : Nat)
  | destroyed (k : SlotKind)
  | tripped (data : Bytes)
  | written (n : Nat)
  | read (data : Bytes)
  | echoed (echoed : Bool) (buffer : Bytes)
  | wouldWait
  | switched
  | modes (generator engine : Bool)
  | shut
  | workerExited
  | traffic (roundTrips : Nat) (fault : Option BenchError)
  | armed (queued : Nat)
  | completed (ends : Bool) (queued : Nat)

end ReadinessBench

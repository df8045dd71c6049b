/-!
# The stop request

An engine is asked to stop through the same mechanism by which it waits for data. The request is a
counter of the kernel behind a descriptor: adding to it makes the descriptor readable, and reading
takes the whole count. So one acknowledgement answers any number of requests, and a request that
has not been acknowledged stays readable.
-/

namespace ReadinessBench

structure StopCounter where
  count : Nat := 0
  deriving DecidableEq, Repr

namespace StopCounter

/-- The largest count; adding beyond it fails and changes nothing. -/
def limit : Nat := UInt64.size - 2

/-- Asks to stop. A full counter stays as it is, and readable. -/
def raise (s : StopCounter) : StopCounter :=
  if s.count + 1 ≤ limit then ⟨s.count + 1⟩ else s

def isReadable (s : StopCounter) : Bool := 0 < s.count

/-- Takes the whole count; whether there was anything to take. -/
def acknowledge (s : StopCounter) : Bool × StopCounter :=
  if 0 < s.count then (true, ⟨0⟩) else (false, s)

inductive Step where
  | raise
  | acknowledge
  /-- Looks whether the descriptor is readable. -/
  | check
  deriving DecidableEq, Repr

/-- The request after one step, and whether an acknowledgement found anything. -/
def step (s : StopCounter) : Step → Option Bool × StopCounter
  | .raise => (none, s.raise)
  | .acknowledge =>
    let (raised, s) := s.acknowledge
    (some raised, s)
  | .check => (none, s)

/-- What each of the steps finds, and whether the descriptor is readable after it. -/
def answers (s : StopCounter) : List Step → List (Option Bool × Bool)
  | [] => []
  | x :: rest =>
    let (found, s) := s.step x
    (found, s.isReadable) :: s.answers rest

end StopCounter

end ReadinessBench

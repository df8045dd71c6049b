import ReadinessBench.Mechanism
import ReadinessBench.Time.Span

/-!
# Plans

What a run is asked to do. A draft collects wishes one by one and may be inconsistent on the way;
a plan is a draft that passed every check, so it carries the proof that it makes sense.
-/

namespace ReadinessBench

/-- How long a run lasts when nothing else is asked for. -/
def usualDuration : Span := .ofSeconds 30

/-- The wishes for a run, in any state. -/
structure Draft where
  mechanism : Mechanism := .standard
  engines : Nat := 1
  pairs : Nat := 1
  messageSize : Nat := 1
  exclusive : Bool := false
  duration : Span := usualDuration
  deriving DecidableEq

structure Plan where
  mechanism : Mechanism
  engines : Nat
  pairs : Nat
  messageSize : Nat
  /-- Only one engine is to be woken per event. -/
  exclusive : Bool
  duration : Span
  engines_pos : engines ≠ 0
  pairs_pos : pairs ≠ 0
  messageSize_pos : messageSize ≠ 0
  duration_pos : duration.isPositive = true
  exclusive_supported : exclusive = true → mechanism.supportsExclusive = true
  deriving DecidableEq

namespace Draft

inductive Setting where
  | mechanism (m : Mechanism)
  | engines (n : Nat)
  | pairs (n : Nat)
  | messageSize (n : Nat)
  | exclusive (b : Bool)
  | duration (d : Span)
  deriving DecidableEq

def set (d : Draft) : Setting → Draft
  | .mechanism m => { d with mechanism := m }
  | .engines n => { d with engines := n }
  | .pairs n => { d with pairs := n }
  | .messageSize n => { d with messageSize := n }
  | .exclusive b => { d with exclusive := b }
  | .duration s => { d with duration := s }

/-- The plan of a draft, or the first thing that is wrong with it: a zero count, in the order of
the options, then a mechanism that cannot be exclusive. -/
def check (d : Draft) : Except BenchError Plan :=
  if engines : d.engines = 0 then .error (.invalidOption "num-engines")
  else if pairs : d.pairs = 0 then .error (.invalidOption "num-fds")
  else if size : d.messageSize = 0 then .error (.invalidOption "msg-size")
  else if duration : d.duration.isPositive = false then .error (.invalidOption "duration-secs")
  else if exclusive : d.exclusive = true ∧ d.mechanism.supportsExclusive = false then
    .error (.unsupportedExclusive d.mechanism.name)
  else .ok {
    mechanism := d.mechanism
    engines := d.engines
    pairs := d.pairs
    messageSize := d.messageSize
    exclusive := d.exclusive
    duration := d.duration
    engines_pos := engines
    pairs_pos := pairs
    messageSize_pos := size
    duration_pos := by simpa using duration
    exclusive_supported := fun h => by simpa [h] using exclusive }

/-- One change of a draft: a wish, or the name of a mechanism as it was typed. -/
inductive Change where
  | setting (s : Setting)
  | engineNamed (word : String)
  deriving DecidableEq

/-- The draft after a change. A name that no mechanism goes by changes nothing. -/
def change (d : Draft) : Change → Except BenchError Draft
  | .setting s => .ok (d.set s)
  | .engineNamed word => (Mechanism.parse word).map fun m => d.set (.mechanism m)

/-- What checking the draft gives after each of the changes, and whether it is the same plan as
the last one that came out. -/
def checks (d : Draft) (last : Option Plan) : List Change → List (Except BenchError (Plan × Bool))
  | [] => []
  | c :: rest =>
    match d.change c with
    | .error e => .error e :: d.checks last rest
    | .ok d =>
      match d.check with
      | .error e => .error e :: d.checks last rest
      | .ok plan => .ok (plan, last = some plan) :: d.checks (some plan) rest

end Draft

end ReadinessBench

import ReadinessBench.Number.Written
import ReadinessBench.Plan

/-!
# The journal

What the benchmark reports while it works. An event is data: its level, its text, its fields and
the part of the program that it belongs to are functions of it.
-/

namespace ReadinessBench

inductive Level where
  | error
  | warn
  | info
  | debug
  | trace
  deriving DecidableEq, Repr

namespace Level

def label : Level → String
  | error => "ERROR"
  | warn => "WARN"
  | info => "INFO"
  | debug => "DEBUG"
  | trace => "TRACE"

def setting : Level → String
  | error => "error"
  | warn => "warn"
  | info => "info"
  | debug => "debug"
  | trace => "trace"

/-- How much is let through: a higher rank is less important. -/
def rank : Level → Nat
  | error => 0
  | warn => 1
  | info => 2
  | debug => 3
  | trace => 4

/-- The level that asking `times` for more detail sets. -/
def ofVerbosity : Nat → Level
  | 0 => warn
  | 1 => info
  | 2 => debug
  | _ => trace

end Level

inductive FieldValue where
  | word (s : String)
  | count (n : Nat)
  | flag (b : Bool)
  | cause (s : String)
  | seconds (s : Span)

namespace FieldValue

def text : FieldValue → String
  | word s => s
  | count n => toString n
  | flag b => if b then "true" else "false"
  | cause s => s
  | seconds s => s.inSeconds.shortest.logText

/-- A value in an event line: words are quoted. -/
def inLine : FieldValue → String
  | word s => Text.quoted s
  | v => v.text

end FieldValue

/-- What happened. Engines appear by name, because a backend may bring a name of its own. -/
inductive Event where
  | runStarting (engine : String) (plan : Plan)
  | pairsCreated (count : Nat)
  | engineStarted (engine : String)
  | workersStarted (engine : String) (workers : Nat)
  | engineStopped (engine : String)
  | workersStopped (engine : String)
  | creationRolledBack (engine : String) (index created : Nat) (error : BenchError)
  | workloadFaulted (error : BenchError)
  | workloadFinished (roundTrips : Nat)
  | runFinished (roundTrips : Nat) (faulted : Bool)
  | requestFailed (failure : Failure)
  | rearmFailed (failure : Failure)
  | waitFailed (engine : String) (failure : Failure)
  | workerPanicked (engine : String)

namespace Event

def level : Event → Level
  | workloadFaulted _ => .error
  | creationRolledBack .. | requestFailed _ | rearmFailed _ | waitFailed .. | workerPanicked _ =>
    .warn
  | runStarting .. | workloadFinished _ | runFinished .. => .info
  | pairsCreated _ | engineStarted _ | workersStarted .. | engineStopped _ | workersStopped _ =>
    .debug

def message : Event → String
  | runStarting .. => "starting run"
  | pairsCreated _ => "channel pairs created"
  | engineStarted _ | workersStarted .. => "engine started"
  | engineStopped _ | workersStopped _ => "engine stopped"
  | creationRolledBack .. => "engine creation failed, rolling back"
  | workloadFaulted _ => "workload ended early"
  | workloadFinished _ => "workload finished"
  | runFinished .. => "run finished"
  | requestFailed _ => "poll request failed, descriptor is no longer watched"
  | rearmFailed _ => "failed to re-arm poll request"
  | waitFailed .. => "readiness wait failed, stopping worker"
  | workerPanicked _ => "engine worker panicked"

def origin : Event → String
  | runStarting .. | creationRolledBack .. | runFinished .. => "fdmon::coordinator"
  | pairsCreated _ => "fdmon::channel"
  | engineStarted _ | engineStopped _ | waitFailed .. | workerPanicked _ => "fdmon::engine::worker"
  | workersStarted .. | workersStopped _ => "fdmon::engine::threads"
  | workloadFaulted _ | workloadFinished _ => "fdmon::generator"
  | requestFailed _ | rearmFailed _ => "fdmon::engine::uring"

def fields : Event → List (String × FieldValue)
  | runStarting engine plan => [
      ("engine", .word engine),
      ("num_engines", .count plan.engines),
      ("num_fds", .count plan.pairs),
      ("msg_size", .count plan.messageSize),
      ("exclusive", .flag plan.exclusive),
      ("duration_secs", .seconds plan.duration)]
  | pairsCreated count => [("count", .count count)]
  | engineStarted engine | engineStopped engine | workersStopped engine =>
    [("engine", .word engine)]
  | workersStarted engine workers => [("engine", .word engine), ("workers", .count workers)]
  | creationRolledBack engine index created error => [
      ("engine", .word engine),
      ("index", .count index),
      ("created", .count created),
      ("error", .cause error.message)]
  | workloadFaulted error => [("error", .cause error.message)]
  | workloadFinished roundTrips => [("round_trips", .count roundTrips)]
  | runFinished roundTrips faulted => [
      ("round_trips", .count roundTrips),
      ("faulted", .flag faulted)]
  | requestFailed failure | rearmFailed failure => [("error", .cause failure.text)]
  | waitFailed engine failure => [("engine", .word engine), ("error", .cause failure.text)]
  | workerPanicked engine => [("engine", .word engine)]

def line (e : Event) : String :=
  let fields := e.fields.map fun (name, value) => s!" {name}={value.inLine}"
  s!"{e.level.label} {e.origin}: {e.message}" ++ String.join fields

def isShownAt (e : Event) (l : Level) : Bool := e.level.rank ≤ l.rank

end Event

end ReadinessBench

import ReadinessBench.Watch.Ring

/-!
# A worker's life

A worker says that it is ready, waits, handles what it is told, and waits again until its stop
request arrives or a wait fails for good. Its owner waits for the word that it is ready and joins
it in the end.
-/

namespace ReadinessBench

/-- How a worker's loop comes to an end, or that it still waits. -/
inductive ServiceEnd where
  /-- The stop request was acknowledged. -/
  | stopped
  | broken
  | collapsed (r : RangeError)
  /-- Nothing more has happened. -/
  | waiting
  deriving DecidableEq, Repr

/-- Whether a worker waits again after a failed wait, and what is reported if not. Only an
interrupted wait is repeated. -/
def retryWait (engine : String) (f : Failure) : Bool × List Event :=
  if f.isInterruption then (true, []) else (false, [.waitFailed engine f])

/-- A worker's loop over what its waits bring, with `wake` to handle a wake-up. -/
def serve {Report State : Type} (engine : String) (wake : Report → State → Verdict × State) :
    List (Except Failure Report) → State → ServiceEnd × List Event × State
  | [], s => (.waiting, [], s)
  | .ok report :: rest, s =>
    match wake report s with
    | (.goOn, s) => serve engine wake rest s
    | (.exit, s) => (.stopped, [], s)
    | (.collapse r, s) => (.collapsed r, [], s)
  | .error f :: rest, s =>
    match retryWait engine f with
    | (true, _) => serve engine wake rest s
    | (false, events) => (.broken, events, s)

namespace RingWorker

/-- A wait that failed but may have brought answers: it was interrupted, or the queue of answers
is full. -/
def excuses (f : Failure) : Bool := f.errno? = some Errno.busy || f.isInterruption

/-- The loop over what the waits bring: a failure of the wait, if any, and the answers. -/
def serve (w : RingWorker) (h : Handover) :
    List (Option Failure × List (UInt64 × Int32)) → ServiceEnd × List Event × RingWorker
  | [] => (.waiting, [], w)
  | (failure, answers) :: rest =>
    match failure.filter (!excuses ·) with
    | some f => (.broken, [.waitFailed Mechanism.ioUring.name f], w)
    | none =>
      match w.wake h answers with
      | (.goOn, events, w) =>
        let (ending, more, w) := w.serve h rest
        (ending, events ++ more, w)
      | (.exit, events, w) => (.stopped, events, w)
      | (.collapse r, events, w) => (.collapsed r, events, w)

end RingWorker

/-- What the body of a worker does before it ends. -/
structure WorkerBody where
  /-- It says that it is ready. -/
  signals : Bool
  panics : Bool
  deriving DecidableEq, Repr

namespace WorkerBody

def join (b : WorkerBody) (engine : String) : List Event :=
  if b.panics then [.workerPanicked engine] else []

/-- Starts the worker and waits until it is ready. A worker that ends without a word is joined. -/
def start (b : WorkerBody) (engine : String) : Except BenchError Unit × List Event :=
  if b.signals then (.ok (), [])
  else
    (.error (.resource "worker failed to signal readiness"
      (.worded .other "worker exited during startup")), b.join engine)

def life (b : WorkerBody) (engine : String) : Except BenchError Unit × List Event :=
  match b.start engine with
  | (.ok (), events) => (.ok (), events ++ b.join engine)
  | (.error e, events) => (.error e, events)

end WorkerBody

end ReadinessBench

import ReadinessBench.BenchError
import ReadinessBench.Workload.Measurement

/-!
# Reports

A run that got as far as its traffic has figures, and perhaps a fault that ended the traffic early.
The figures are written down in either case, and only then is the fault complained about.
-/

namespace ReadinessBench

structure Report where
  figures : Measurement
  /-- What ended the traffic early. -/
  fault : Option BenchError
  deriving DecidableEq

/-- The figures of a run, unless it faulted. -/
def Report.result (r : Report) : Except BenchError Measurement :=
  match r.fault with
  | some e => .error e
  | none => .ok r.figures

/-- A place to write text to. It takes only so many characters, if it is limited, and then fails;
it may also fail when it is told to finish. -/
structure Sink where
  written : List Char := []
  /-- How many more characters fit. -/
  room : Option Nat := none
  failsToFlush : Bool := false
  /-- Why a full sink takes no more. -/
  whenFull : Failure := .worded .other "writer is full"
  /-- Why a sink cannot be finished. -/
  whenFlushed : Failure := .worded .other "flush failed"
  /-- An interrupted writer is asked again; a full one that said so would be asked for ever. -/
  isInterruption_whenFull : whenFull.isInterruption = false := by decide
  deriving DecidableEq

namespace Sink

/-- Writes `text`, or as much of it as fits. -/
def write (s : Sink) (text : List Char) : Except Failure Unit × Sink :=
  match s.room with
  | none => (.ok (), { s with written := s.written ++ text })
  | some room =>
    let taken := text.take room
    ((if text.length ≤ room then .ok () else .error s.whenFull),
      { s with written := s.written ++ taken, room := some (room - taken.length) })

def writeAll (s : Sink) : List (List Char) → Except Failure Unit × Sink
  | [] => (.ok (), s)
  | text :: rest =>
    match s.write text with
    | (.ok (), s) => s.writeAll rest
    | (.error e, s) => (.error e, s)

def flush (s : Sink) : Except Failure Unit :=
  if s.failsToFlush then .error s.whenFlushed else .ok ()

end Sink

/-- Writes the two lines of a measurement and finishes the sink. -/
def Measurement.writeTo (m : Measurement) (s : Sink) : Except Failure Unit × Sink :=
  match s.writeAll (m.lines.map String.toList) with
  | (.ok (), s) => (s.flush, s)
  | (.error e, s) => (.error e, s)

/-- Why the program ends badly: what it was doing, followed by what lies behind it. -/
structure Complaint where
  context : String
  causes : List String
  deriving DecidableEq, Repr

namespace Complaint

/-- An error met while doing something. -/
def ofError (context : String) (e : BenchError) : Complaint := ⟨context, e.chain⟩

/-- A failed call met while doing something. -/
def ofFailure (context : String) (f : Failure) : Complaint := ⟨context, [f.text]⟩

def line (c : Complaint) : String := "error: " ++ ": ".intercalate (c.context :: c.causes)

end Complaint

/-- Writes the figures of a report, whether or not it has a fault, and then complains about the
fault. -/
def Report.finish (r : Report) (s : Sink) : Except Complaint Unit × Sink :=
  match r.figures.writeTo s with
  | (.error f, s) => (.error (.ofFailure "failed to write statistics" f), s)
  | (.ok (), s) =>
    match r.result with
    | .error e => (.error (.ofError "benchmark aborted" e), s)
    | .ok _ => (.ok (), s)

end ReadinessBench

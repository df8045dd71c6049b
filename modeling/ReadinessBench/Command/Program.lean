import ReadinessBench.Bench.Run
import ReadinessBench.Command.Help
import ReadinessBench.Workload.Report

/-!
# The program

What the program prints and how it exits: help, complaints about its arguments, or the events and
the figures of a run. Figures go to the standard output; everything else goes to the standard error.
-/

namespace ReadinessBench.Command

structure Outcome where
  exitCode : Nat
  stdout : String := ""
  stderr : String := ""
  deriving DecidableEq

/-- The outcome of arguments that lead to no run. -/
def Refusal.outcome (r : Refusal) : Outcome :=
  if r.isComplaint then { exitCode := r.exitCode, stderr := r.text }
  else { exitCode := r.exitCode, stdout := r.text }

def printed (lines : List String) : String := String.join (lines.map (· ++ "\n"))

def shownEvents (level : Level) (events : List Event) : List String :=
  (events.filter (·.isShownAt level)).map Event.line

/-- The outcome of a plan that does not hold. -/
def badPlan (e : BenchError) : Outcome :=
  { exitCode := 1, stderr := printed [(Complaint.ofError "invalid configuration" e).line] }

/-- The outcome of a run that could not be set up. -/
def badSetup (p : Plan) (e : BenchError) (level : Level) (events : List Event) : Outcome :=
  let complaint := Complaint.ofError s!"failed to set up {p.mechanism.name} benchmark" e
  { exitCode := 1, stderr := printed (shownEvents level events ++ [complaint.line]) }

/-- The outcome of a run whose engines are too many to make room for. -/
def collapse (r : RangeError) (level : Level) (events : List Event) : Outcome :=
  { exitCode := 101, stderr := printed (shownEvents level events ++ [r.message]) }

/-- The outcome of a run that got as far as its traffic. -/
def finished (r : Report) (level : Level) (events : List Event) : Outcome :=
  let (result, sink) := r.finish {}
  let stdout := String.ofList sink.written
  let shown := shownEvents level events
  match result with
  | .ok () => { exitCode := 0, stdout, stderr := printed shown }
  | .error c => { exitCode := 1, stdout, stderr := printed (shown ++ [c.line]) }

structure Clocks where
  elapsed : Span
  cpu : Span

structure Job where
  plan : Plan
  level : Level

/-- The job that the arguments describe, or the outcome if they describe none. -/
def job (arguments : List String) : Except Outcome Job :=
  match parse arguments with
  | .error r => .error r.outcome
  | .ok a =>
    match a.draft.check with
    | .error e => .error (badPlan e)
    | .ok plan => .ok ⟨plan, Level.ofVerbosity a.verbosity⟩

namespace Job

/-- Sets the run up on an empty bench, or gives the outcome if that is not possible. -/
def setUp (j : Job) : Except Outcome (Underway × Bench) :=
  match j.plan.mechanism.backend.begin j.plan {} with
  | .error r => .error (collapse r j.level [])
  | .ok (.error e, b) => .error (badSetup j.plan e j.level b.journal.toList)
  | .ok (.ok u, b) => .ok (u, b)

def outcome (j : Job) (u : Underway) (t : Traffic) (clocks : Clocks) : Outcome :=
  let b := j.plan.mechanism.backend.conclude u t t.bench
  let figures : Measurement := ⟨clocks.elapsed, t.ending.roundTrips, clocks.cpu⟩
  finished ⟨figures, t.ending.fault⟩ j.level b.journal.toList

end Job

/-- The program with the given arguments, if its run lasts for `patience` and takes as long as
`clocks` say. -/
def run (arguments : List String) (draw : Draw) (patience : Patience) (clocks : Clocks) : Outcome :=
  match job arguments with
  | .error o => o
  | .ok j =>
    match j.setUp with
    | .error o => o
    | .ok (u, b) => j.outcome u ((u.traffic draw b).run (patience.limit b u.pairs)) clocks

end ReadinessBench.Command

import ReadinessBench.Failure.Basic

/-!
# The timer of a run

A timer bounds how long a run takes. When the time is up it first cancels the run's token and then
interrupts the running thread, again and again, because a single interruption may come just before
the thread begins to wait and be lost. The owner ends the timer by closing it and waits until it
has finished.
-/

namespace ReadinessBench

/-- What has to be done before a timer counts. -/
inductive ArmingStep where
  /-- The handler of interruptions is installed. -/
  | handler
  /-- The timer's thread is started. -/
  | thread
  deriving DecidableEq, Repr

/-- Says what failed when a timer cannot be armed. -/
def ArmingStep.context : ArmingStep → String
  | handler => "failed to install interrupt handler"
  | thread => "failed to start deadline timer"

/-- Where the timer stands. -/
inductive TimerPhase where
  /-- Waiting for the time to be up. -/
  | counting
  /-- The time is up; the token is about to be cancelled. -/
  | expired
  | alarming
  /-- Waiting a little before the next interruption. -/
  | pausing
  | finished
  deriving DecidableEq, Repr

/-- A timer and whether its owner has closed it. -/
structure Timer where
  phase : TimerPhase := .counting
  closed : Bool := false
  deriving DecidableEq, Repr

inductive TimerEffect where
  | none
  | cancelToken
  | interrupt
  deriving DecidableEq, Repr

namespace Timer

/-- One step of the timer, if it can take one. A wait ends because the time is up while the owner
has not closed the timer, or because the owner has closed it. -/
def step (t : Timer) : Option (TimerEffect × Timer) :=
  match t.phase, t.closed with
  | .counting, false => some (.none, { t with phase := .expired })
  | .counting, true => some (.none, { t with phase := .finished })
  | .expired, _ => some (.cancelToken, { t with phase := .alarming })
  | .alarming, _ => some (.interrupt, { t with phase := .pausing })
  | .pausing, false => some (.none, { t with phase := .alarming })
  | .pausing, true => some (.none, { t with phase := .finished })
  | .finished, _ => none

def close (t : Timer) : Timer := { t with closed := true }

/-- Lets the timer take up to so many steps, the last of them an interruption; whether it has
cancelled the token on the way. -/
def advance (t : Timer) : Nat → Bool × Timer
  | 0 => (false, t)
  | n + 1 =>
    match t.step with
    | Option.none => (false, t)
    | some (.interrupt, t) => (false, t)
    | some (.cancelToken, t) => (true, (t.advance n).2)
    | some (.none, t) => t.advance n

/-- Lets the timer go on until it interrupts. From any phase it gets there in three steps, unless
it has been closed. -/
def untilInterrupt (t : Timer) : Bool × Timer := t.advance 3

/-- What a call reports that the timer has interrupted. -/
def interruption : Failure := .errno Errno.interrupted

end Timer

end ReadinessBench

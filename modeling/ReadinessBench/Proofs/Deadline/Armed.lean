import ReadinessBench.Timer

/-!
# The timer and its owner

The owner sets the timer, and at some moment it closes the timer and waits until that has finished.
The timer's steps and the owner's come in any order, and somebody else may cancel the token as
well. What the two do is written down in the order in which it happens.
-/

namespace ReadinessBench

/-- Where the owner stands. -/
inductive Holder where
  /-- No timer has been set yet. -/
  | unset
  | holding
  /-- It has closed the timer and waits for it. -/
  | waiting
  | released
  deriving DecidableEq, Repr

inductive Happening where
  /-- The timer's wait has ended because the time is up. -/
  | expired
  | cancelled
  | interrupted
  /-- The pause between two interruptions is over. -/
  | paused
  /-- The timer has found itself closed. -/
  | finished
  | closed
  /-- The owner has waited for the timer. -/
  | released
  /-- Somebody else has cancelled the token. -/
  | stopped
  deriving DecidableEq, Repr

/-- It is the timer that does this. -/
def Happening.isTimers : Happening → Bool
  | expired | cancelled | interrupted | paused | finished => true
  | closed | released | stopped => false

namespace Timer

/-- How a step with this effect into this phase is written down. -/
def happening : TimerEffect → TimerPhase → Happening
  | .cancelToken, _ => .cancelled
  | .interrupt, _ => .interrupted
  | .none, .expired => .expired
  | .none, .finished => .finished
  | .none, _ => .paused

/-- The timer's next step and how it is written down. -/
def turn (t : Timer) : Option (Happening × Timer) :=
  t.step.map fun (e, t') => (happening e t'.phase, t')

/-- All that a step of the timer can be. -/
inductive Turns (t : Timer) : Happening → TimerPhase → Prop where
  | expire (hphase : t.phase = .counting) (hopen : t.closed = false) : Turns t .expired .expired
  | cancel (hphase : t.phase = .expired) : Turns t .cancelled .alarming
  | interrupt (hphase : t.phase = .alarming) : Turns t .interrupted .pausing
  | pause (hphase : t.phase = .pausing) (hopen : t.closed = false) : Turns t .paused .alarming
  | finish (hphase : t.phase = .counting ∨ t.phase = .pausing) (hclosed : t.closed = true) :
    Turns t .finished .finished

theorem turns_of_turn {t t' : Timer} {x : Happening} (h : t.turn = some (x, t')) :
    t'.closed = t.closed ∧ Turns t x t'.phase := by
  obtain ⟨phase, closed⟩ := t
  cases phase with
  | counting =>
    cases closed with
    | false =>
      cases h
      exact ⟨rfl, .expire rfl rfl⟩
    | true =>
      cases h
      exact ⟨rfl, .finish (Or.inl rfl) rfl⟩
  | expired =>
    cases h
    exact ⟨rfl, .cancel rfl⟩
  | alarming =>
    cases h
    exact ⟨rfl, .interrupt rfl⟩
  | pausing =>
    cases closed with
    | false =>
      cases h
      exact ⟨rfl, .pause rfl rfl⟩
    | true =>
      cases h
      exact ⟨rfl, .finish (Or.inr rfl) rfl⟩
  | finished => cases h

end Timer

/-- A timer with its owner and the token. -/
structure Deadline where
  holder : Holder := .unset
  timer : Timer := {}
  cancelled : Bool := false
  history : List Happening := []
  deriving DecidableEq, Repr

namespace Deadline

inductive Move where
  /-- The owner sets the timer, which may turn out to be impossible. -/
  | arm (possible : Bool)
  /-- The timer takes its next step, if there is one. -/
  | turn
  | close
  /-- The owner has waited until the timer has finished. -/
  | release
  /-- Somebody else cancels the token. -/
  | stop
  deriving DecidableEq, Repr

def note (s : Deadline) (x : Happening) : Deadline := { s with history := s.history ++ [x] }

/-- The timer's next step with what it does to the token. -/
def turn (s : Deadline) : Deadline :=
  match s.timer.turn with
  | some (x, timer) => { s with timer, cancelled := s.cancelled || x = Happening.cancelled }.note x
  | none => s

/-- One move. What cannot happen changes nothing. -/
def step (s : Deadline) : Move → Deadline
  | .arm possible => if s.holder = .unset ∧ possible then { s with holder := .holding } else s
  | .turn => if s.holder = .unset then s else s.turn
  | .close =>
    if s.holder = .holding then { s with holder := .waiting, timer := s.timer.close }.note .closed
    else s
  | .release =>
    if s.holder = .waiting ∧ s.timer.phase = .finished then
      { s with holder := .released }.note .released
    else s
  | .stop => { s with cancelled := true }.note .stopped

def run (s : Deadline) (moves : List Move) : Deadline := moves.foldl step s

/-- All that a move can do. -/
inductive Steps (s : Deadline) : Deadline → Prop where
  | idle : Steps s s
  | arm (hunset : s.holder = .unset) : Steps s { s with holder := .holding }
  | turn {x : Happening} {phase : TimerPhase} (hset : s.holder ≠ .unset)
    (hturn : s.timer.Turns x phase) :
    Steps s ({ s with
      timer := { s.timer with phase }
      cancelled := s.cancelled || x = Happening.cancelled }.note x)
  | close (hholding : s.holder = .holding) :
    Steps s ({ s with holder := .waiting, timer := s.timer.close }.note .closed)
  | release (hwaiting : s.holder = .waiting) (hfinished : s.timer.phase = .finished) :
    Steps s ({ s with holder := .released }.note .released)
  | stop : Steps s ({ s with cancelled := true }.note .stopped)

theorem steps_turn (s : Deadline) (hset : s.holder ≠ .unset) : Steps s s.turn := by
  rw [turn]
  split
  · rename_i x timer hturn
    obtain ⟨phase, closed⟩ := timer
    obtain ⟨rfl, hturns⟩ := Timer.turns_of_turn hturn
    exact .turn hset hturns
  · exact .idle

theorem steps_step (s : Deadline) (x : Move) : Steps s (s.step x) := by
  cases x with
  | arm possible =>
    rw [step]
    split
    · next h => exact .arm h.1
    · exact .idle
  | turn =>
    rw [step]
    split
    · exact .idle
    · next hset => exact s.steps_turn hset
  | close =>
    rw [step]
    split
    · next hholding => exact .close hholding
    · exact .idle
  | release =>
    rw [step]
    split
    · next h => exact .release h.1 h.2
    · exact .idle
  | stop => exact .stop

end Deadline

end ReadinessBench

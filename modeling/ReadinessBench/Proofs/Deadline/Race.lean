import ReadinessBench.Timer
import ReadinessBench.Workload.Basic

/-!
# The timer and the workload

Two threads share a token: the timer cancels it and interrupts, the workload looks at it between
its calls. The engines decide when a call returns and what it brings. What the workload's thread
finds of the token may lag behind, but a cancellation is seen at the latest with the interruption
that is sent after it.

Interruptions are the only cause for which a transfer may come up short or fail, and one that comes
outside a call is lost. Somebody else may cancel the token as well, and the owner may close the
timer at any time.
-/

namespace ReadinessBench

structure Race where
  workload : Workload
  timer : Timer := {}
  cancelled : Bool := false
  /-- The workload's thread finds it cancelled. -/
  visible : Bool := false
  /-- Interruptions that have been sent and have come to nothing yet. -/
  pending : Nat := 0

namespace Race

/-- One move of one of the threads, or of the world. -/
inductive Move where
  /-- The timer takes its next step, if there is one. -/
  | timer
  | close
  /-- Somebody else cancels the token. -/
  | cancel
  /-- The workload's thread comes to see that the token is cancelled. -/
  | reveal
  /-- An interruption comes outside a call. -/
  | lose
  | look
  | write (result : Except Failure Nat)
  | read (result : Except Failure Bytes)
  | draw (pair : Nat)

/-- The timer's next step with what it does to the token and to the workload's thread. -/
def tick (s : Race) : Race :=
  match s.timer.step with
  | none => s
  | some (.none, timer) => { s with timer }
  | some (.cancelToken, timer) => { s with timer, cancelled := true }
  | some (.interrupt, timer) =>
    { s with timer, visible := s.visible || s.cancelled, pending := s.pending + 1 }

/-- All of a message has been moved. -/
def isWhole (size : Nat) : Except Failure Nat → Bool
  | .ok moved => moved = size
  | .error _ => false

/-- What an interruption makes of a transfer: it fails, or it moves less than a message. -/
def isCut (size : Nat) : Except Failure Nat → Bool
  | .ok moved => moved < size
  | .error f => f = Timer.interruption

/-- The race after a transfer with this result, if it can have come about. -/
def settle (s : Race) (result : Except Failure Nat) : Option Race :=
  if isWhole s.workload.message.size result then some s
  else if isCut s.workload.message.size result && 0 < s.pending then
    some { s with pending := s.pending - 1 }
  else none

/-- One move. What cannot happen changes nothing. -/
def step (s : Race) : Move → Race
  | .timer => s.tick
  | .close => { s with timer := s.timer.close }
  | .cancel => { s with cancelled := true }
  | .reveal => { s with visible := s.visible || s.cancelled }
  | .lose => { s with pending := s.pending - 1 }
  | .look => { s with workload := s.workload.look s.visible }
  | .write result =>
    match s.workload.stage, s.settle result with
    | .sending, some s => { s with workload := s.workload.wrote result }
    | _, _ => s
  | .read result =>
    match s.workload.stage, s.settle (result.map List.length) with
    | .receiving, some s => { s with workload := s.workload.read result }
    | _, _ => s
  | .draw pair => { s with workload := s.workload.drew pair }

def run (s : Race) (moves : List Move) : Race := moves.foldl step s

/-- The timer has just been set, and the workload is about to begin. -/
def start (pairs : Nat) (message : Buffer) : Race := { workload := { pairs, message } }

/-! ## The way to the end -/

/-- How many steps of its own the workload is away from its end once it sees the cancellation. -/
def stepsLeft : Stage → Nat
  | .ready | .sent _ | .received _ => 1
  | .sending | .receiving | .drawing => 2
  | .over _ => 0

theorem stepsLeft_le (stage : Stage) : stepsLeft stage ≤ 2 := by
  cases stage <;> simp only [stepsLeft] <;> omega

theorem exists_over_of_stepsLeft {stage : Stage} (h : stepsLeft stage = 0) :
    ∃ f, stage = .over f := by
  cases stage <;> first
    | exact ⟨_, rfl⟩
    | cases h

/-- Whether the workload itself takes a step in this move. -/
def advances (s : Race) : Move → Bool
  | .look => match s.workload.stage with
    | .ready | .sent _ | .received _ => true
    | _ => false
  | .write result => match s.workload.stage with
    | .sending => (s.settle result).isSome
    | _ => false
  | .read result => match s.workload.stage with
    | .receiving => (s.settle (result.map List.length)).isSome
    | _ => false
  | .draw _ => match s.workload.stage with
    | .drawing => true
    | _ => false
  | _ => false

/-- How many steps the workload takes in these moves. -/
def stepsTaken (s : Race) : List Move → Nat
  | [] => 0
  | x :: rest => (s.advances x).toNat + (s.step x).stepsTaken rest

end Race

end ReadinessBench

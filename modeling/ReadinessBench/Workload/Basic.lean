import ReadinessBench.Memory

/-!
# The workload

One thread drives all traffic, one round trip at a time: it writes a message to a pair, reads the
echo back into the same buffer, and only then goes on to the next pair, which is drawn at random.
It looks at its token before every round trip and after every call, so a call that fails because
cancellation has interrupted it ends the run normally.

The workload is a machine that waits for one thing at a time: a look at the token, the result of a
write or of a read, or a draw. Whatever it meets, a next state follows.
-/

namespace ReadinessBench

/-- What the workload waits for. -/
inductive Stage where
  /-- A look at the token before a round trip. -/
  | ready
  /-- The result of writing the message. -/
  | sending
  /-- A look at the token after the write. -/
  | sent (result : Except Failure Nat)
  /-- The result of reading the echo. -/
  | receiving
  /-- A look at the token after the read. -/
  | received (result : Except Failure Nat)
  /-- The draw of the next pair. -/
  | drawing
  /-- Nothing more; the traffic may have faulted. -/
  | over (fault : Option BenchError)

structure Workload where
  pairs : Nat
  /-- The message, which each echo overwrites. -/
  message : Buffer
  current : Nat := 0
  roundTrips : Nat := 0
  stage : Stage := .ready

/-- A transfer is good if it moved exactly one message. -/
def checkTransfer (operation : String) (expected : Nat) :
    Except Failure Nat → Except BenchError Unit
  | .ok moved =>
    if moved = expected then .ok () else .error (.ioFault operation expected moved none)
  | .error f => .error (.ioFault operation expected 0 (some f))

namespace Workload

def look (w : Workload) (cancelled : Bool) : Workload :=
  match w.stage with
  | .ready => { w with stage := if cancelled then .over none else .sending }
  | .sent result =>
    if cancelled then { w with stage := .over none }
    else
      match checkTransfer "write" w.message.size result with
      | .ok () => { w with stage := .receiving }
      | .error e => { w with stage := .over (some e) }
  | .received result =>
    if cancelled then { w with stage := .over none }
    else
      match checkTransfer "read" w.message.size result with
      | .ok () => { w with stage := .drawing, roundTrips := w.roundTrips + 1 }
      | .error e => { w with stage := .over (some e) }
  | _ => w

@[simp] theorem look_pairs (w : Workload) (cancelled : Bool) :
    (w.look cancelled).pairs = w.pairs := by
  unfold look
  split <;> repeat' split
  all_goals rfl

@[simp] theorem look_message (w : Workload) (cancelled : Bool) :
    (w.look cancelled).message = w.message := by
  unfold look
  split <;> repeat' split
  all_goals rfl

@[simp] theorem look_current (w : Workload) (cancelled : Bool) :
    (w.look cancelled).current = w.current := by
  unfold look
  split <;> repeat' split
  all_goals rfl

def wrote (w : Workload) (result : Except Failure Nat) : Workload :=
  match w.stage with
  | .sending => { w with stage := .sent result }
  | _ => w

def read (w : Workload) (result : Except Failure Bytes) : Workload :=
  match w.stage, result with
  | .receiving, .ok data =>
    { w with message := w.message.overwrite data, stage := .received (.ok data.length) }
  | .receiving, .error f => { w with stage := .received (.error f) }
  | _, _ => w

def drew (w : Workload) (pair : Nat) : Workload :=
  match w.stage with
  | .drawing => { w with current := pair, stage := .ready }
  | _ => w

def isOver (w : Workload) : Bool :=
  match w.stage with
  | .over _ => true
  | _ => false

/-- What ended the traffic early, if anything did. -/
def fault (w : Workload) : Option BenchError :=
  match w.stage with
  | .over f => f
  | _ => none

end Workload

end ReadinessBench

import Mathlib.Logic.Function.Basic
import ReadinessBench.Journal
import ReadinessBench.Watch.ThreadGroup

/-!
# Disbanding a group of workers

The owner of a group of workers ends it while the workers go their own ways. A worker may leave its
loop at any moment: because it has found the stop flag set, or because it has panicked, also long
before the group is ended. It then sends its owner a notice, and only some time after that its
thread has finished. The owner waits for a notice, but not long, and it takes every notice for no
more than a reason to look who has finished.
-/

namespace ReadinessBench

/-- Where a worker is on its way. -/
inductive Post where
  /-- About to look at the stop flag. -/
  | looking
  /-- The flag was unset; the echo step is about to begin. -/
  | admitted
  /-- In an echo step, perhaps waiting for something to read. -/
  | echoing
  /-- Out of its loop, with its notice still to send. -/
  | leaving
  | noticed
  | finished
  deriving DecidableEq, Repr

/-- A worker with a pair of its own. -/
structure PairWorker where
  post : Post := .looking
  panicked : Bool := false
  /-- What its looks at the flag have found, oldest first. -/
  looks : List Bool := []
  /-- How many echo steps it has begun. -/
  echoes : Nat := 0
  /-- How many of them it began with the flag set. -/
  lateEchoes : Nat := 0
  deriving DecidableEq

namespace PairWorker

/-- The next step of the worker. -/
def next (k : PairWorker) (stopped : Bool) : PairWorker :=
  match k.post with
  | .looking => { k with
      looks := k.looks ++ [stopped]
      post := if stopped then .leaving else .admitted }
  | .admitted => { k with
      echoes := k.echoes + 1
      lateEchoes := if stopped then k.lateEchoes + 1 else k.lateEchoes
      post := .echoing }
  | .echoing => { k with post := .looking }
  | .leaving => { k with post := .noticed }
  | .noticed => { k with post := .finished }
  | .finished => k

/-- The worker panics, if it is in its loop. -/
def panic (k : PairWorker) : PairWorker :=
  match k.post with
  | .looking | .echoing => { k with post := .leaving, panicked := true }
  | _ => k

end PairWorker

/-- What the owner is about to do. -/
inductive Disbander where
  /-- The engine is at work. -/
  | holding
  /-- At the head of the loop. -/
  | turning
  | interrupting (left : List Nat)
  /-- Waits for a notice for a while. -/
  | listening
  /-- Looks at one running worker after the other. -/
  | sorting (left finished running : List Nat)
  /-- Joins those that it has found to have finished. -/
  | joining (joined left running : List Nat)
  | ended
  deriving DecidableEq, Repr

/-- What others notice of the owner. -/
inductive GroupDeed where
  | interrupts (worker : Nat)
  | joins (worker : Nat) (panicked : Bool)
  /-- Reports that the engine has stopped. -/
  | reports
  deriving DecidableEq, Repr

/-- What the owner reports on the way. -/
def GroupDeed.events : GroupDeed → List Event
  | .interrupts _ => []
  | .joins _ panicked => if panicked then [.workerPanicked Mechanism.threads.name] else []
  | .reports => [.workersStopped Mechanism.threads.name]

/-- A round of the owner's loop: who was running at its beginning, and who had finished by its
end, with whether it had panicked. -/
structure GroupRound where
  running : List Nat
  found : List (Nat × Bool)

namespace GroupRound

def finished (r : GroupRound) (w : Nat) : Bool := (r.found.map Prod.fst).contains w

def deeds (r : GroupRound) : List GroupDeed :=
  r.running.map .interrupts ++ r.found.map fun (w, panicked) => .joins w panicked

end GroupRound

structure Disbanding where
  count : Nat
  workers : Nat → PairWorker := fun _ => {}
  /-- The stop flag. -/
  stopped : Bool := false
  /-- Notices that the owner has not received yet. -/
  notices : Nat := 0
  owner : Disbander := .holding
  group : ThreadGroup := .ofSize count
  /-- The rounds that are over, and what the owner has done, oldest first. -/
  rounds : List GroupRound := []
  deeds : List GroupDeed := []

namespace Disbanding

inductive Move where
  /-- The owner's next step. If it waits for a notice, it hears one or has waited long enough. -/
  | owner (hears : Bool)
  | worker (w : Nat)
  | panic (w : Nat)
  deriving DecidableEq, Repr

def turn (s : Disbanding) : Disbanding :=
  if s.group.running.isEmpty then { s with owner := .ended, deeds := s.deeds ++ [.reports] }
  else { s with owner := .interrupting s.group.running }

def interrupt (s : Disbanding) : List Nat → Disbanding
  | [] => { s with owner := .listening }
  | w :: rest => { s with
      owner := .interrupting rest
      group := { s.group with interrupted := s.group.interrupted ++ [w] }
      deeds := s.deeds ++ [.interrupts w] }

/-- There is nothing to hear without a notice. -/
def listen (s : Disbanding) (hears : Bool) : Disbanding :=
  if hears && s.notices = 0 then s
  else { s with
    notices := if hears then s.notices - 1 else s.notices
    owner := .sorting s.group.running [] [] }

def sort (s : Disbanding) (finished running : List Nat) : List Nat → Disbanding
  | [] => { s with owner := .joining [] finished running }
  | w :: rest =>
    if (s.workers w).post = .finished then
      { s with owner := .sorting rest (finished ++ [w]) running }
    else { s with owner := .sorting rest finished (running ++ [w]) }

/-- To join a worker is to wait until it has finished. -/
def join (s : Disbanding) (joined running : List Nat) : List Nat → Disbanding
  | [] => { s with
      owner := .turning
      group := { s.group with running }
      rounds := s.rounds ++
        [⟨s.group.running, joined.map fun w => (w, (s.workers w).panicked)⟩] }
  | w :: rest =>
    if (s.workers w).post = .finished then { s with
      owner := .joining (joined ++ [w]) rest running
      group := { s.group with joined := s.group.joined ++ [w] }
      deeds := s.deeds ++ [.joins w (s.workers w).panicked] }
    else s

def act (s : Disbanding) (hears : Bool) : Disbanding :=
  match s.owner with
  | .holding => { s with stopped := true, owner := .turning }
  | .turning => s.turn
  | .interrupting left => s.interrupt left
  | .listening => s.listen hears
  | .sorting left finished running => s.sort finished running left
  | .joining joined left running => s.join joined running left
  | .ended => s

def setWorker (s : Disbanding) (w : Nat) (k : PairWorker) : Disbanding :=
  { s with workers := Function.update s.workers w k }

theorem workers_setWorker (s : Disbanding) (w : Nat) (k : PairWorker) :
    (s.setWorker w k).workers w = k := by
  show Function.update s.workers w k w = k
  rw [Function.update_self]

theorem workers_setWorker_of_ne {v w : Nat} (h : v ≠ w) (s : Disbanding) (k : PairWorker) :
    (s.setWorker w k).workers v = s.workers v := by
  show Function.update s.workers w k v = s.workers v
  rw [Function.update_of_ne h]

/-- One move. What cannot happen changes nothing. -/
def step (s : Disbanding) : Move → Disbanding
  | .owner hears => s.act hears
  | .worker w =>
    if w < s.count then { s.setWorker w ((s.workers w).next s.stopped) with
      notices := if (s.workers w).post = .leaving then s.notices + 1 else s.notices }
    else s
  | .panic w => if w < s.count then s.setWorker w (s.workers w).panic else s

def run (s : Disbanding) (moves : List Move) : Disbanding := moves.foldl step s

/-- The journal, as far as the owner writes it. -/
def journal (s : Disbanding) : List Event := s.deeds.flatMap GroupDeed.events

end Disbanding

end ReadinessBench

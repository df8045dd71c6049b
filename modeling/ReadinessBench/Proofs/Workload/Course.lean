import Mathlib.Data.List.ModifyLast
import ReadinessBench.Workload.Report
import ReadinessBench.Workload.Traffic

/-!
# The course of a workload

What the workload does, written down: its calls with what they brought, its looks at the token, and
the pairs that were drawn. Calls may bring any number of bytes or any failure, draws any pair, and
the token may be cancelled at any moment, for good.
-/

namespace ReadinessBench

inductive CallKind where
  | write
  | read
  deriving DecidableEq, Repr

def CallKind.name : CallKind → String
  | write => "write"
  | read => "read"

/-- A call that the workload has made. -/
structure Call where
  operation : CallKind
  pair : Nat
  result : Except Failure Nat
  /-- The token had been cancelled when the call began. -/
  late : Bool
  /-- What the look after the call found: whether the token was cancelled. -/
  found : Option Bool := none

namespace Call

/-- The call moved all of a message, and the token was not cancelled after it. -/
def isGood (size : Nat) (c : Call) : Bool :=
  match c.result with
  | .ok moved => moved = size && c.found = some false
  | .error _ => false

/-- What is said about a call that did not move all of a message. -/
def fault (size : Nat) (c : Call) : BenchError :=
  match c.result with
  | .ok moved => .ioFault c.operation.name size moved none
  | .error f => .ioFault c.operation.name size 0 (some f)

/-- The calls of each round: two, of which the second may be missing in the last round. -/
def rounds : List Call → List (Call × Option Call)
  | [] => []
  | [first] => [(first, none)]
  | first :: second :: rest => (first, some second) :: rounds rest

/-- The two calls of a round that make it a round trip. -/
def isRoundTrip (size : Nat) : Call × Option Call → Bool
  | (first, some second) => first.isGood size && second.isGood size
  | (_, none) => false

end Call

structure Course where
  workload : Workload
  cancelled : Bool := false
  /-- All calls so far, like the following oldest first. -/
  calls : List Call := []
  /-- What each look at the token has found. -/
  looks : List Bool := []
  draws : List Nat := []

namespace Course

inductive Move where
  /-- Somebody cancels the token. -/
  | cancel
  | look
  | write (result : Except Failure Nat)
  | read (result : Except Failure Bytes)
  | draw (pair : Nat)

def look (s : Course) : Course :=
  match s.workload.stage with
  | .ready =>
    { s with workload := s.workload.look s.cancelled, looks := s.looks ++ [s.cancelled] }
  | .sent _ | .received _ =>
    { s with
      workload := s.workload.look s.cancelled
      looks := s.looks ++ [s.cancelled]
      calls := s.calls.modifyLast fun c => { c with found := some s.cancelled } }
  | _ => s

def noteCall (s : Course) (operation : CallKind) (result : Except Failure Nat) : Course :=
  { s with calls := s.calls ++ [⟨operation, s.workload.current, result, s.cancelled, none⟩] }

/-- One move. What cannot happen changes nothing. -/
def step (s : Course) : Move → Course
  | .cancel => { s with cancelled := true }
  | .look => s.look
  | .write result =>
    match s.workload.stage with
    | .sending => { s.noteCall .write result with workload := s.workload.wrote result }
    | _ => s
  | .read result =>
    match s.workload.stage with
    | .receiving =>
      { s.noteCall .read (result.map List.length) with workload := s.workload.read result }
    | _ => s
  | .draw pair =>
    match s.workload.stage with
    | .drawing => { s with workload := s.workload.drew pair, draws := s.draws ++ [pair] }
    | _ => s

def run (s : Course) (moves : List Move) : Course := moves.foldl step s

/-- The workload is about to begin. -/
def start (pairs : Nat) (message : Buffer) : Course := { workload := { pairs, message } }

end Course

end ReadinessBench

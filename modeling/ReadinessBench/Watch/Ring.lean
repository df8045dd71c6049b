import ReadinessBench.Journal
import ReadinessBench.Watch.EpollLoop

/-!
# Waiting with io_uring

Every descriptor has a request of its own that answers once. Requests wait in a submission queue of
64 places until they are handed over to the kernel; a request that finds the queue full has it
handed over first. When a request is answered, the worker echoes and submits a new one, unless the
request failed for good.
-/

namespace ReadinessBench

/-- Places in the submission queue. -/
def queueDepth : Nat := 64

/-- A request to be told when a descriptor becomes readable. -/
structure PollRequest where
  token : UInt64
  number : Nat
  deriving DecidableEq, Repr

/-- The requests that a ring knows. -/
structure Ring where
  /-- What the requests wait for. -/
  mask : UInt32
  /-- Not handed over yet, oldest first. -/
  queued : List PollRequest := []
  /-- Handed over and not answered yet, oldest first. -/
  pending : List PollRequest := []
  deriving DecidableEq

/-- What becomes of an attempt to hand the queue over to the kernel. -/
inductive Handover where
  /-- The kernel took so many requests, the oldest first. -/
  | took (count : Nat)
  | failed (failure : Failure)
  deriving DecidableEq, Repr

namespace Handover

/-- The kernel takes all that is queued. -/
def all : Handover := .took queueDepth

end Handover

namespace Ring

/-- Why a full queue takes no more. -/
def full : Failure := .worded .other "submission queue is full"

def push (r : Ring) (q : PollRequest) : Except Failure Ring :=
  if r.queued.length < queueDepth then .ok { r with queued := r.queued ++ [q] } else .error full

def submit (r : Ring) : Handover → Except Failure Unit × Ring
  | .failed f => (.error f, r)
  | .took n =>
    (.ok (), { r with queued := r.queued.drop n, pending := r.pending ++ r.queued.take n })

/-- Puts a request into the queue; a full queue is handed over once to make room. -/
def arm (r : Ring) (q : PollRequest) (h : Handover) : Except Failure Unit × Ring :=
  match r.push q with
  | .ok r => (.ok (), r)
  | .error _ =>
    match r.submit h with
    | (.error f, r) => (.error f, r)
    | (.ok (), r) =>
      match r.push q with
      | .ok r => (.ok (), r)
      | .error f => (.error f, r)

/-- Takes the answered request out of those handed over. -/
def answer (r : Ring) (token : UInt64) : Ring :=
  { r with pending := r.pending.eraseP (·.token = token) }

/-- The requests for all watched pairs, by position, and last the one for the stop request. -/
def requests (watched : List Watched) (stopNumber : Nat) : List PollRequest :=
  watched.mapIdx (fun i w => ⟨UInt64.ofNat i, w.number⟩) ++ [⟨stopToken, stopNumber⟩]

/-- Arms one request after the other, handing everything over when the queue is full. -/
def armAll (r : Ring) (qs : List PollRequest) : Ring :=
  qs.foldl (fun r q => (r.arm q .all).2) r

/-- A ring whose requests for all watched pairs and for the stop request have been handed over. -/
def watching (mask : UInt32) (watched : List Watched) (stopNumber : Nat) : Ring :=
  ((({ mask } : Ring).armAll (requests watched stopNumber)).submit .all).2

end Ring

structure RingWorker where
  ring : Ring
  stopNumber : Nat
  duty : Duty

namespace RingWorker

/-- What the kernel answered: what happened, or an error number below zero. The least 32-bit
number is the negative of no error number. -/
def outcome (result : Int32) : Except RangeError (Except Failure Unit) :=
  if result = Int32.minValue then .error .negationOverflow
  else if result < 0 then .ok (.error (.errno (-result.toInt)))
  else .ok (.ok ())

/-- The descriptor that a token stands for, if it stands for one. -/
def numberOf? (w : RingWorker) (token : UInt64) : Option Nat :=
  if token = stopToken then some w.stopNumber
  else w.duty.watched[token.toNat]?.map Watched.number

/-- What the worker does about an answered request, before it submits a new one. -/
def handle (w : RingWorker) (token : UInt64) : Verdict × RingWorker :=
  if token = stopToken then
    match w.duty.acknowledge with
    | (true, d) => (.exit, { w with duty := d })
    | (false, d) => (.goOn, { w with duty := d })
  else
    match w.duty.watched[token.toNat]? with
    | some x => (.goOn, { w with duty := w.duty.echo x.pair })
    | none => (.goOn, w)

def rearm (w : RingWorker) (request : PollRequest) (h : Handover) : List Event × RingWorker :=
  match w.ring.arm request h with
  | (.ok (), ring) => ([], { w with ring })
  | (.error f, ring) => ([.rearmFailed f], { w with ring })

/-- Handles what a request for the descriptor `number` has come to. A request that failed for good
is not submitted again, and the worker ends if that was the stop request's. -/
def settle (w : RingWorker) (token : UInt64) (number : Nat) (h : Handover) :
    Except Failure Unit → Verdict × List Event × RingWorker
  | .ok () =>
    match w.handle token with
    | (.goOn, w) =>
      let (events, w) := w.rearm ⟨token, number⟩ h
      (.goOn, events, w)
    | (verdict, w) => (verdict, [], w)
  | .error f =>
    if f.isTransient then
      let (events, w) := w.rearm ⟨token, number⟩ h
      (.goOn, events, w)
    else (if token = stopToken then .exit else .goOn, [.requestFailed f], w)

/-- Handles one answered request: what is reported, whether the worker goes on, and the worker.
The token of nothing is passed over, whatever the answer. -/
def complete (w : RingWorker) (token : UInt64) (result : Int32) (h : Handover) :
    Verdict × List Event × RingWorker :=
  match w.numberOf? token with
  | none => (.goOn, [], w)
  | some number =>
    match outcome result with
    | .ok o => w.settle token number h o
    | .error r => (.collapse r, [], w)

/-- Handles a batch of answered requests in order, until one of them ends the worker. -/
def wake (w : RingWorker) (h : Handover) :
    List (UInt64 × Int32) → Verdict × List Event × RingWorker
  | [] => (.goOn, [], w)
  | (token, result) :: rest =>
    match w.complete token result h with
    | (.goOn, events, w) =>
      let (verdict, more, w) := w.wake h rest
      (verdict, events ++ more, w)
    | ended => ended

end RingWorker

end ReadinessBench

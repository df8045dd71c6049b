import ReadinessBench.Bench.Basic
import ReadinessBench.Proofs.Exchange.Worker
import ReadinessBench.Workload.Basic

/-!
# One generator and any number of workers

The workload drives its round trips over the pairs of a bench while workers echo on them. A
schedule says who acts next: the workload looks at its token, writes, reads or draws, or a worker
does one half of an echo step. What cannot happen at its turn does not happen: a read that has to
wait, a draw out of range, a reply that nobody owes.

Every transfer is written down, so that the order of transfers can be spoken about.
-/

namespace ReadinessBench

/-- Bytes that went over a pair. -/
inductive Transfer where
  | sent (pair : Nat) (data : Bytes)
  | fetched (worker pair : Nat) (data : Bytes)
  | delivered (worker pair : Nat) (data : Bytes)
  | received (pair : Nat) (data : Bytes)
  deriving DecidableEq, Repr

namespace Transfer

/-- The messages written by the generator, with their pairs. -/
def sentIn (h : List Transfer) : List (Nat × Bytes) :=
  h.filterMap fun
    | sent pair data => some (pair, data)
    | _ => none

def fetchedIn (h : List Transfer) : List (Nat × Bytes) :=
  h.filterMap fun
    | fetched _ pair data => some (pair, data)
    | _ => none

def deliveredIn (h : List Transfer) : List (Nat × Bytes) :=
  h.filterMap fun
    | delivered _ pair data => some (pair, data)
    | _ => none

def receivedIn (h : List Transfer) : List (Nat × Bytes) :=
  h.filterMap fun
    | received pair data => some (pair, data)
    | _ => none

end Transfer

/-- A workload, the bench with its pairs, and the workers on them. -/
structure Exchange where
  workload : Workload
  bench : Bench
  workers : Array EchoWorker
  history : List Transfer := []

namespace Exchange

inductive Action where
  /-- The workload looks at its token. -/
  | look (cancelled : Bool)
  | write
  | read
  /-- The workload draws the pair of the next round trip. -/
  | draw (pair : Nat)
  /-- A worker does the reading half of an echo step. -/
  | fetch (worker pair : Nat)
  /-- A worker does the writing half of its echo step. -/
  | deliver (worker : Nat)
  deriving DecidableEq, Repr

/-- A workload that is about to begin, on a bench with the given workers. -/
def start (b : Bench) (message : Buffer) (workers : Array EchoWorker) : Exchange where
  workload := { pairs := b.sockets.size, message }
  bench := b
  workers

def note (s : Exchange) (x : Transfer) : Exchange := { s with history := s.history ++ [x] }

def write (s : Exchange) : Exchange :=
  match s.workload.stage with
  | .sending =>
    let message := s.workload.message.contents
    match s.bench.send s.workload.current message with
    | (.ok n, bench) =>
      { s with workload := s.workload.wrote (.ok n), bench }.note (.sent s.workload.current message)
    | (.error f, bench) => { s with workload := s.workload.wrote (.error f), bench }
  | _ => s

/-- The workload reads the echo from its pair, unless it has to wait for it. -/
def read (s : Exchange) : Exchange :=
  match s.workload.stage with
  | .receiving =>
    match s.bench.receive s.workload.current s.workload.message.size with
    | (.wouldWait, _) => s
    | (receipt, bench) =>
      { s with workload := s.workload.read (.ok receipt.data), bench }.note
        (.received s.workload.current receipt.data)
  | _ => s

/-- The exchange with other values for one worker and one pair. -/
def update (s : Exchange) (worker : Nat) (w : EchoWorker) (pair : Nat) (p : SocketPair) :
    Exchange :=
  { s with
    workers := s.workers.setIfInBounds worker w
    bench := { s.bench with sockets := s.bench.sockets.setIfInBounds pair p } }

private theorem setIfInBounds_self {α : Type} {xs : Array α} {i : Nat} {x : α}
    (hx : xs[i]? = some x) : xs.setIfInBounds i x = xs := by
  apply Array.ext_getElem?
  intro j
  rw [Array.getElem?_setIfInBounds]
  split
  · rename_i hij
    subst hij
    have hlt : i < xs.size := (Array.getElem?_eq_some_iff.mp hx).1
    rw [if_pos hlt, hx]
  · rfl

theorem update_self {s : Exchange} {worker pair : Nat} {w : EchoWorker} {p : SocketPair}
    (hw : s.workers[worker]? = some w) (hp : s.bench.sockets[pair]? = some p) :
    s.update worker w pair p = s := by
  rw [update, setIfInBounds_self hw, setIfInBounds_self hp]

/-- A worker that owes nothing reads from a pair that it watches. -/
def fetch (s : Exchange) (worker pair : Nat) : Exchange :=
  match s.workers[worker]?, s.bench.sockets[pair]? with
  | some w, some p =>
    if w.owed.isNone && w.watched.contains pair then
      let (w, p) := w.fetch pair p
      let s := s.update worker w pair p
      if w.owed.isSome then s.note (.fetched worker pair w.inHand) else s
    else s
  | _, _ => s

def deliver (s : Exchange) (worker : Nat) : Exchange :=
  match s.workers[worker]? with
  | none => s
  | some w =>
    match w.owed with
    | none => s
    | some d =>
      match s.bench.sockets[d.pair]? with
      | none => s
      | some p =>
        let (idle, p) := w.deliver p
        (s.update worker idle d.pair p).note (.delivered worker d.pair w.inHand)

def step (s : Exchange) : Action → Exchange
  | .look cancelled => { s with workload := s.workload.look cancelled }
  | .write => s.write
  | .read => s.read
  | .draw pair =>
    if pair < s.workload.pairs then { s with workload := s.workload.drew pair } else s
  | .fetch worker pair => s.fetch worker pair
  | .deliver worker => s.deliver worker

def run (s : Exchange) (schedule : List Action) : Exchange := schedule.foldl step s

/-- The bytes on their way over a pair: in its two queues and in the hands of workers. -/
def inFlight (s : Exchange) (pair : Nat) : Bytes :=
  match s.bench.sockets[pair]? with
  | some p =>
    p.replies.waiting ++ s.workers.toList.flatMap (·.inHandOf pair) ++ p.requests.waiting
  | none => s.workers.toList.flatMap (·.inHandOf pair)

end Exchange

end ReadinessBench

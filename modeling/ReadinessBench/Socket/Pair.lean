import ReadinessBench.Socket.ByteQueue

/-!
# Socket pairs

The two ends of a pair and the two byte queues between them. The generator writes requests and
reads replies; the engines read requests and write replies. The generator's end always waits, for
data and for memory to write to; the engines' end starts out not waiting and can be switched.
-/

namespace ReadinessBench

structure SocketPair where
  /-- From the generator's end to the engines' end. -/
  requests : ByteQueue := {}
  /-- From the engines' end to the generator's end. -/
  replies : ByteQueue := {}
  /-- Whether the engines' end waits. -/
  blocking : Bool := false
  deriving DecidableEq, Repr

namespace SocketPair

/-- A pair as it is opened. -/
def fresh : SocketPair := {}

inductive End where
  | generator
  | engine
  deriving DecidableEq, Repr

/-- What of an end is shut down. -/
inductive Direction where
  | write
  | read
  | both
  deriving DecidableEq, Repr

/-- Writes at the generator's end. -/
def send (p : SocketPair) (data : Bytes) : Except Failure SocketPair :=
  (p.requests.write data).map fun q => { p with requests := q }

/-- Reads at the generator's end. -/
def receive (p : SocketPair) (n : Nat) : Receipt × SocketPair :=
  let (r, q) := p.replies.read n
  (r, { p with replies := q })

/-- Writes at the engines' end: how many bytes, and the pair. Unless that end waits, it is as many
as there is memory for. -/
def reply (p : SocketPair) (data : Bytes) : Except Failure (Nat × SocketPair) :=
  if p.blocking then (p.replies.write data).map fun q => (data.length, { p with replies := q })
  else (p.replies.offer data).map fun (n, q) => (n, { p with replies := q })

/-- Reads at the engines' end. -/
def accept (p : SocketPair) (n : Nat) : Receipt × SocketPair :=
  let (r, q) := p.requests.read n
  (r, { p with requests := q })

/-- Whether shutting down this end in this direction closes the requests. -/
def closesRequests : End → Direction → Bool
  | .generator, .write | .generator, .both | .engine, .read | .engine, .both => true
  | .generator, .read | .engine, .write => false

/-- Whether shutting down this end in this direction closes the replies. -/
def closesReplies : End → Direction → Bool
  | .engine, .write | .engine, .both | .generator, .read | .generator, .both => true
  | .engine, .read | .generator, .write => false

/-- Shuts down one end: the queue it writes to, the queue it reads from, or both. -/
def shutdown (p : SocketPair) (e : End) (d : Direction) : SocketPair :=
  { p with
    requests := if closesRequests e d then p.requests.close else p.requests
    replies := if closesReplies e d then p.replies.close else p.replies }

def setBlocking (p : SocketPair) : SocketPair := { p with blocking := true }

theorem send_open {p : SocketPair} (hopen : p.requests.isOpen = true) (data : Bytes) :
    p.send data = .ok { p with requests := p.requests.extend true data } := by
  rw [send, ByteQueue.write, if_pos hopen]
  rfl

/-- The generator cannot read a reply before there is one. -/
theorem receive_empty {p : SocketPair} (hempty : p.replies.OpenWith []) (n : Nat) :
    p.receive n = (.wouldWait, p) := by
  rw [receive, ByteQueue.read_empty hempty]

theorem receive_all {p : SocketPair} {data : Bytes} (hreplies : p.replies.OpenWith data)
    (hne : data ≠ []) {n : Nat} (hfit : data.length ≤ n) :
    p.receive n = (.bytes data, { p with replies := p.replies.drop n }) := by
  rw [receive, (ByteQueue.read_all hreplies hne hfit).1]

end SocketPair

end ReadinessBench

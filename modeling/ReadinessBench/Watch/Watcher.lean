import ReadinessBench.Watch.PollLoop
import ReadinessBench.Watch.Ring
import ReadinessBench.Watch.SelectLoop
import ReadinessBench.Watch.ThreadGroup

/-!
# Live engines

An engine that has been created watches its pairs until it is destroyed. Here the kernel's part is
played truthfully: each wait of the engine brings exactly the pairs on which requests wait, in the
form of the engine's mechanism, and the engine handles one wake-up after the other until no
request waits any more.

A pair at its end of file is readable for ever, but an echo step on it does nothing, so wake-ups
for it are left out.
-/

namespace ReadinessBench

structure Watcher where
  mechanism : Mechanism
  watched : List Watched
  /-- The buffer of its worker; with a thread for each descriptor, of the worker at work. -/
  buffer : Buffer
  stop : StopCounter := {}
  /-- The descriptors it has opened for itself, the last one for its stop request. -/
  owned : List Nat
  ring : Ring := { mask := readMask }

namespace Watcher

def workers (w : Watcher) : Nat :=
  match w.mechanism with
  | .threads => w.watched.length
  | _ => 1

def stopNumber (w : Watcher) : Nat := w.owned.getLastD 0

/-- What the engine's worker touches. -/
def duty (w : Watcher) (sockets : Array SocketPair) : Duty :=
  { watched := w.watched, buffer := w.buffer, stop := w.stop, sockets }

/-- The engine after its worker has worked. -/
def ofDuty (w : Watcher) (d : Duty) : Watcher × Array SocketPair :=
  ({ w with buffer := d.buffer, stop := d.stop }, d.sockets)

def pollReport (w : Watcher) (d : Duty) : PollSlot × List PollSlot :=
  (PollSlot.report w.stopNumber d.stop.isReadable,
    d.watched.map fun x => PollSlot.report x.number (d.hasRequest x.pair))

def selectReport (w : Watcher) (d : Duty) : DescriptorSet :=
  let numbers := (d.watched.filter (d.hasRequest ·.pair)).map Watched.number
  DescriptorSet.ofList (if d.stop.isReadable then w.stopNumber :: numbers else numbers)

/-- The tokens of the pairs with requests, by position. -/
def readyTokens (d : Duty) : List UInt64 :=
  (d.watched.zipIdx.filter fun (x, _) => d.hasRequest x.pair).map fun (_, i) => UInt64.ofNat i

/-- The tokens as epoll reports them. -/
def epollReport (d : Duty) : List UInt64 :=
  let tokens := if d.stop.isReadable then stopToken :: readyTokens d else readyTokens d
  tokens.take EpollLoop.tokensPerWait

/-- The answers as the ring reports them: those requests handed over that can be answered. -/
def ringReport (r : Ring) (d : Duty) : List (UInt64 × Int32) :=
  let ready := readyTokens d
  let answered := r.pending.filter fun q =>
    ready.contains q.token || (q.token = stopToken && d.stop.isReadable)
  answered.map fun q => (q.token, 1)

/-- One wake-up of the engine with what the kernel reports. -/
def wake (w : Watcher) (sockets : Array SocketPair) : Watcher × Array SocketPair :=
  let d := w.duty sockets
  match w.mechanism with
  | .poll =>
    let (stop, slots) := w.pollReport d
    w.ofDuty (PollLoop.wake stop slots d).2
  | .select => w.ofDuty (SelectLoop.wake (w.selectReport d) w.stopNumber d).2
  | .epoll => w.ofDuty (EpollLoop.wake (epollReport d) d).2
  | .ioUring =>
    let ring := (w.ring.submit .all).2
    let answers := ringReport ring d
    let ring := answers.foldl (fun r a => r.answer a.1) ring
    let worker : RingWorker := { ring, stopNumber := w.stopNumber, duty := d }
    let (_, _, worker) := worker.wake .all answers
    ({ w with ring := worker.ring }).ofDuty worker.duty
  | .threads => w.ofDuty (w.watched.foldl (fun d x => ThreadGroup.serve x.pair [false] d) d)

/-- Wake-ups until nothing waits on the watched pairs, at most so many. -/
def work (w : Watcher) (sockets : Array SocketPair) : Nat → Watcher × Array SocketPair
  | 0 => (w, sockets)
  | n + 1 =>
    if (w.duty sockets).backlog = 0 then (w, sockets)
    else
      let (w, sockets) := w.wake sockets
      w.work sockets n

/-- Wake-ups until nothing waits on the watched pairs. Each of them echoes at least one byte. -/
def settle (w : Watcher) (sockets : Array SocketPair) : Watcher × Array SocketPair :=
  w.work sockets (w.duty sockets).backlog

end Watcher

end ReadinessBench

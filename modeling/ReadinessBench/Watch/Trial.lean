import ReadinessBench.Watch.Service
import ReadinessBench.Watch.Watcher

/-!
# Trying a worker

A worker on its own, without an engine around it, for as long as its first wait takes: it finds
what there is to find, or its wait fails.
-/

namespace ReadinessBench.Trial

/-- How a wait turns out: with a report, unless it fails. -/
def waiting {Report : Type} (failure : Option Failure) (report : Report) : Except Failure Report :=
  match failure with
  | some f => .error f
  | none => .ok report

/-- How the loop of a worker stands after its first wait. -/
def ending (w : Watcher) (sockets : Array SocketPair) (failure : Option Failure) : ServiceEnd :=
  let d := w.duty sockets
  let name := w.mechanism.name
  match w.mechanism with
  | .poll =>
    (serve name (fun (stop, slots) d => PollLoop.wake stop slots d)
      [waiting failure (w.pollReport d)] d).1
  | .select =>
    (serve name (fun readable d => SelectLoop.wake readable w.stopNumber d)
      [waiting failure (w.selectReport d)] d).1
  | .epoll => (serve name EpollLoop.wake [waiting failure (Watcher.epollReport d)] d).1
  | .ioUring =>
    let worker : RingWorker := { ring := w.ring, stopNumber := w.stopNumber, duty := d }
    (worker.serve .all [(failure, Watcher.ringReport w.ring d)]).1
  | .threads => .waiting

/-- Starts a worker with a buffer of `size` bytes and lets it wait once. -/
def start (kind : Mechanism) (size : Nat) (watched : List Watched) (stop : StopCounter)
    (sockets : Array SocketPair) (failure : Option Failure) : Except BenchError ServiceEnd :=
  (Buffer.allocate size).map fun buffer =>
    let w : Watcher := { mechanism := kind, watched, buffer, stop, owned := [0] }
    let w := { w with ring := .watching readMask watched w.stopNumber }
    ending w sockets failure

/-- A worker that watches nothing and whose waits fail because their descriptor is not open. -/
def broken (kind : Mechanism) (size : Nat) : Except BenchError ServiceEnd :=
  start kind size [] {} #[] (some (.errno Errno.badDescriptor))

end ReadinessBench.Trial

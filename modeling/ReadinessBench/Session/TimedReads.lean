import ReadinessBench.Socket.ByteQueue
import ReadinessBench.Timer

/-!
# Reads under a timer

Blocking reads from a queue of bytes while a timer runs. A read that finds bytes takes them. One
that finds none waits until the timer interrupts it, which it does as often as need be.
-/

namespace ReadinessBench

/-- A reader, its timer, and whether the reader's token is cancelled. -/
structure TimedReader where
  queue : ByteQueue
  timer : Timer := {}
  cancelled : Bool

namespace TimedReader

def chunk : Nat := 4

def read (r : TimedReader) : Except Failure Bytes × TimedReader :=
  match r.queue.read chunk with
  | (.wouldWait, _) =>
    let (cancels, timer) := r.timer.untilInterrupt
    (.error Timer.interruption, { r with timer, cancelled := r.cancelled || cancels })
  | (receipt, queue) => (.ok receipt.data, { r with queue })

def reads (r : TimedReader) : Nat → List (Except Failure Bytes) × TimedReader
  | 0 => ([], r)
  | n + 1 =>
    let (result, r) := r.read
    let (results, r) := r.reads n
    (result :: results, r)

end TimedReader

end ReadinessBench

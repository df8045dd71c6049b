import ReadinessBench.Memory
import ReadinessBench.Socket.QueueMemory

/-!
# Byte queues

One direction of a socket pair: bytes wait in the order in which they were written. A closed queue
accepts nothing more but still gives out what waits in it.

The memory in use for what waits is limited. A writer may wait until there is some again, and then
nothing of what it writes is held back; what such a writer still holds counts as waiting here. A
writer that does not wait gets rid of as much as there is memory for.
-/

namespace ReadinessBench

@[ext] structure ByteQueue where
  waiting : Bytes := []
  isOpen : Bool := true
  memory : QueueMemory := {}
  /-- The pieces in which what waits was written. -/
  pieces : List Piece := memory.cut waiting.length
  bytesOf_pieces : Piece.bytesOf pieces = waiting.length := by exact QueueMemory.bytesOf_cut _ _
  deriving DecidableEq, Repr

/-- What a read finds. -/
inductive Receipt where
  /-- Some bytes, or none if none were asked for. -/
  | bytes (data : Bytes)
  /-- Nothing waits and nothing more can come. -/
  | endOfFile
  /-- Nothing waits, but something may still come. -/
  | wouldWait
  deriving DecidableEq, Repr

namespace ByteQueue

/-- Why nothing can be written to a closed queue. -/
def refusal : Failure := .errno Errno.brokenPipe

/-- The memory in use for what waits. -/
def used (q : ByteQueue) : Nat := Piece.memoryOf q.pieces

/-- The pieces in which so many bytes come in with one write, which may wait for memory or not. -/
def intake (q : ByteQueue) (waits : Bool) (n : Nat) : List Piece :=
  if q.isOpen then if waits then q.memory.cut n else q.memory.fitting q.used (q.memory.cut n)
  else []

/-- How many of so many bytes come in. -/
def takes (q : ByteQueue) (waits : Bool) (n : Nat) : Nat := Piece.bytesOf (q.intake waits n)

theorem takes_le (q : ByteQueue) (waits : Bool) (n : Nat) : q.takes waits n ≤ n := by
  unfold takes intake
  split
  · split
    · exact Nat.le_of_eq (q.memory.bytesOf_cut n)
    · exact q.memory.bytesOf_fitting_le q.used n
  · exact Nat.zero_le n

/-- The queue with as much of `data` as comes in. -/
def extend (q : ByteQueue) (waits : Bool) (data : Bytes) : ByteQueue :=
  { q with
    waiting := q.waiting ++ data.take (q.takes waits data.length)
    pieces := q.pieces ++ q.intake waits data.length
    bytesOf_pieces := by
      rw [Piece.bytesOf_append, q.bytesOf_pieces, List.length_append, List.length_take,
        Nat.min_eq_left (q.takes_le waits _)]
      rfl }

/-- Appends `data`; a closed queue refuses even the empty write. -/
def write (q : ByteQueue) (data : Bytes) : Except Failure ByteQueue :=
  if q.isOpen then .ok (q.extend true data) else .error refusal

/-- Appends as much of `data` as there is memory for, without waiting for more: how many bytes, and
the queue. -/
def offer (q : ByteQueue) (data : Bytes) : Except Failure (Nat × ByteQueue) :=
  if q.isOpen then
    if q.takes false data.length = 0 && !data.isEmpty then .error (.errno Errno.tryAgain)
    else .ok (q.takes false data.length, q.extend false data)
  else .error refusal

/-- The queue without the first so many bytes. -/
def drop (q : ByteQueue) (n : Nat) : ByteQueue :=
  { q with
    waiting := q.waiting.drop n
    pieces := Piece.after n q.pieces
    bytesOf_pieces := by rw [Piece.bytesOf_after, q.bytesOf_pieces, List.length_drop] }

def read (q : ByteQueue) (n : Nat) : Receipt × ByteQueue :=
  if q.waiting.isEmpty then (if q.isOpen then .wouldWait else .endOfFile, q)
  else (.bytes (q.waiting.take n), q.drop n)

def close (q : ByteQueue) : ByteQueue := { q with isOpen := false }

/-- A read would return at once. -/
def isReadable (q : ByteQueue) : Bool := !q.waiting.isEmpty || !q.isOpen

/-- The queue is open, and this is what waits in it. -/
def OpenWith (q : ByteQueue) (data : Bytes) : Prop := q.waiting = data ∧ q.isOpen = true

instance (q : ByteQueue) (data : Bytes) : Decidable (q.OpenWith data) :=
  inferInstanceAs (Decidable (_ ∧ _))

end ByteQueue

namespace Receipt

def data : Receipt → Bytes
  | bytes d => d
  | endOfFile | wouldWait => []

/-- What a read that must not wait answers. -/
def withoutWaiting : Receipt → Except Failure Bytes
  | bytes d => .ok d
  | endOfFile => .ok []
  | wouldWait => .error (.errno Errno.tryAgain)

end Receipt

namespace ByteQueue

variable {q : ByteQueue} {data : Bytes}

/-- A queue in which nothing waits uses no memory. -/
theorem pieces_eq_nil (h : q.waiting = []) : q.pieces = [] :=
  Piece.eq_nil_of_bytesOf (q.bytesOf_pieces.trans (congrArg List.length h))

theorem takes_of_closed (hclosed : q.isOpen = false) (waits : Bool) (n : Nat) :
    q.takes waits n = 0 := by
  rw [takes, intake, hclosed, if_neg Bool.false_ne_true]
  rfl

/-- A writer that waits gets rid of everything. -/
theorem takes_waiting (hopen : q.isOpen = true) (n : Nat) : q.takes true n = n := by
  rw [takes, intake, if_pos hopen, if_pos rfl, QueueMemory.bytesOf_cut]

theorem OpenWith.extend {waits : Bool} (h : q.OpenWith [])
    (htakes : q.takes waits data.length = data.length) : (q.extend waits data).OpenWith data := by
  refine ⟨?_, h.2⟩
  show q.waiting ++ data.take (q.takes waits data.length) = data
  rw [h.1, htakes, List.take_length, List.nil_append]

/-- What comes in waits behind what waited before. -/
theorem waiting_extend_of_takes {waits : Bool} (htakes : q.takes waits data.length = data.length) :
    (q.extend waits data).waiting = q.waiting ++ data := by
  show q.waiting ++ data.take (q.takes waits data.length) = _
  rw [htakes, List.take_length]

theorem extend_of_takes_eq_zero {waits : Bool} (htakes : q.takes waits data.length = 0) :
    q.extend waits data = q := by
  apply ByteQueue.ext
  · show q.waiting ++ data.take (q.takes waits data.length) = _
    rw [htakes, List.take_zero, List.append_nil]
  · rfl
  · rfl
  · show q.pieces ++ q.intake waits data.length = _
    rw [Piece.eq_nil_of_bytesOf htakes, List.append_nil]

/-- Nothing can be read yet from an empty queue that may still fill. -/
theorem read_empty (h : q.OpenWith []) (n : Nat) : q.read n = (.wouldWait, q) := by
  rw [read, h.1, List.isEmpty_nil, if_pos rfl, if_pos h.2]

/-- A read that asks for enough empties the queue. -/
theorem read_all (h : q.OpenWith data) (hne : data ≠ []) {n : Nat} (hfit : data.length ≤ n) :
    q.read n = (.bytes data, q.drop n) ∧ (q.drop n).OpenWith [] := by
  obtain ⟨rfl, hopen⟩ := h
  refine ⟨?_, List.drop_eq_nil_of_le hfit, hopen⟩
  rw [read, if_neg (List.isEmpty_eq_false_iff.mpr hne ▸ Bool.false_ne_true),
    List.take_of_length_le hfit]

theorem length_read_le (q : ByteQueue) (n : Nat) : (q.read n).1.data.length ≤ n := by
  unfold read
  split
  · split <;> exact Nat.zero_le n
  · exact List.length_take_le n _

end ByteQueue

end ReadinessBench

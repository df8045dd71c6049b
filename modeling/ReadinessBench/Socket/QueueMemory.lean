import ReadinessBench.Memory

/-!
# The memory of a byte queue

What is written to a queue is cut into pieces, and for each piece some memory is in use until the
last byte of it has been read. A writer that does not wait gets rid of no further piece once so much
memory is in use as its end may have. For a short piece this is many times its size: so few hundred
bytes that are written one at a time and not read fill a queue.

The numbers are those of the system, and the defaults are its usual ones.
-/

namespace ReadinessBench

/-- What is left of a piece, and the memory that is in use for it. -/
structure Piece where
  unread : Nat
  memory : Nat
  unread_pos : 0 < unread
  deriving DecidableEq, Repr

structure QueueMemory where
  /-- With so much in use a writer that does not wait is turned away. -/
  limit : Nat := 212992
  /-- So many bytes of a piece share a block of memory with what is kept about it. -/
  blockRoom : Nat := 3776
  /-- So many more have pages of their own. -/
  pageRoom : Nat := 32768
  pageSize : Nat := 4096
  /-- The blocks: up to how many bytes there is room in them, and what they take. -/
  blocks : List (Nat × Nat) := [(192, 768), (704, 1280), (1728, 2304), (3776, 4352)]
  pieceSize_pos : 0 < blockRoom + pageRoom := by decide
  deriving DecidableEq, Repr

namespace QueueMemory

/-- How many bytes a piece has at most. -/
def pieceSize (m : QueueMemory) : Nat := m.blockRoom + m.pageRoom

/-- The memory of the smallest block with room for so many bytes. -/
def block (m : QueueMemory) (n : Nat) : Nat :=
  match m.blocks.find? (n ≤ ·.1) with
  | some (_, size) => size
  | none => n

/-- The memory for a piece of so many bytes. Whole pages are used for what a block has no room for,
and the rest stands in a block. -/
def charge (m : QueueMemory) (n : Nat) : Nat :=
  let paged := min n ((n - m.blockRoom + m.pageSize - 1) / m.pageSize * m.pageSize)
  m.block (n - paged) + paged

/-- How a write of so many bytes is cut. -/
def cut (m : QueueMemory) (n : Nat) : List Piece :=
  List.replicate (n / m.pieceSize) ⟨m.pieceSize, m.charge m.pieceSize, m.pieceSize_pos⟩ ++
    if h : 0 < n % m.pieceSize then [⟨n % m.pieceSize, m.charge (n % m.pieceSize), h⟩] else []

/-- The pieces that a writer gets rid of without waiting, if so much memory is in use already. -/
def fitting (m : QueueMemory) (used : Nat) : List Piece → List Piece
  | [] => []
  | x :: rest => if used < m.limit then x :: m.fitting (used + x.memory) rest else []

end QueueMemory

namespace Piece

def sumOf (f : Piece → Nat) (pieces : List Piece) : Nat := pieces.foldr (fun x n => f x + n) 0

/-- The memory that is in use for some pieces. -/
def memoryOf (pieces : List Piece) : Nat := sumOf memory pieces

def bytesOf (pieces : List Piece) : Nat := sumOf unread pieces

/-- What is left when so many bytes have been read. -/
def after (n : Nat) : List Piece → List Piece
  | [] => []
  | x :: rest =>
    if h : n < x.unread then { x with unread := x.unread - n, unread_pos := by omega } :: rest
    else after (n - x.unread) rest

theorem sumOf_append (f : Piece → Nat) (xs ys : List Piece) :
    sumOf f (xs ++ ys) = sumOf f xs + sumOf f ys := by
  induction xs with
  | nil => exact (Nat.zero_add _).symm
  | cons x rest ih =>
    show f x + sumOf f (rest ++ ys) = f x + sumOf f rest + sumOf f ys
    rw [ih, Nat.add_assoc]

theorem sumOf_replicate (f : Piece → Nat) (n : Nat) (x : Piece) :
    sumOf f (List.replicate n x) = n * f x := by
  induction n with
  | zero => exact (Nat.zero_mul _).symm
  | succ n ih =>
    show f x + sumOf f (List.replicate n x) = _
    rw [ih, Nat.succ_mul, Nat.add_comm]

@[simp] theorem bytesOf_append (xs ys : List Piece) :
    bytesOf (xs ++ ys) = bytesOf xs + bytesOf ys :=
  sumOf_append unread xs ys

theorem bytesOf_after (n : Nat) (pieces : List Piece) :
    bytesOf (after n pieces) = bytesOf pieces - n := by
  induction pieces generalizing n with
  | nil => exact (Nat.zero_sub n).symm
  | cons x rest ih =>
    have hsum : bytesOf (x :: rest) = x.unread + bytesOf rest := rfl
    rw [after]
    split
    · show x.unread - n + bytesOf rest = _
      omega
    · rw [ih, hsum]
      omega

theorem eq_nil_of_bytesOf {pieces : List Piece} (h : bytesOf pieces = 0) : pieces = [] := by
  cases pieces with
  | nil => rfl
  | cons x rest =>
    have hpos := x.unread_pos
    have hsum : bytesOf (x :: rest) = x.unread + bytesOf rest := rfl
    omega

end Piece

namespace QueueMemory

@[simp] theorem bytesOf_cut (m : QueueMemory) (n : Nat) : Piece.bytesOf (m.cut n) = n := by
  have hwhole := Nat.div_add_mod n m.pieceSize
  rw [cut, Piece.bytesOf_append, Piece.bytesOf, Piece.sumOf_replicate, Nat.mul_comm]
  dsimp only
  split
  · exact hwhole
  · show _ + 0 = n
    omega

/-- What fits is the beginning of what is written. -/
theorem fitting_prefix (m : QueueMemory) (used : Nat) (pieces : List Piece) :
    m.fitting used pieces <+: pieces := by
  induction pieces generalizing used with
  | nil => exact List.prefix_rfl
  | cons x rest ih =>
    rw [fitting]
    split
    · exact (List.prefix_cons_inj x).mpr (ih _)
    · exact List.nil_prefix

theorem bytesOf_fitting_le (m : QueueMemory) (used n : Nat) :
    Piece.bytesOf (m.fitting used (m.cut n)) ≤ n := by
  obtain ⟨rest, hrest⟩ := m.fitting_prefix used (m.cut n)
  have hall := m.bytesOf_cut n
  rw [← hrest, Piece.bytesOf_append] at hall
  omega

end QueueMemory

end ReadinessBench

import ReadinessBench.BenchError

/-!
# Message buffers

A buffer holds one message. It starts out as zeros, and reading into it overwrites its front, so
what stood behind the bytes just read stays there.

Sizes of `2^63` and above cannot even be asked for; from `2^47` on the allocator has no room.
-/

namespace ReadinessBench

abbrev Bytes := List UInt8

/-- A zeroed buffer of `size` bytes of which only the front has been written. -/
structure Buffer where
  size : Nat
  /-- The part that has been written so far; everything behind it is zero. -/
  front : Bytes := []
  front_le : front.length ≤ size := by simp
  deriving DecidableEq

namespace Buffer

/-- The size from which on a buffer cannot be described to the allocator, `2^63`. -/
def sizeLimit : Nat := 0x8000000000000000

/-- The size from which on the allocator refuses, `2^47`. -/
def memoryLimit : Nat := 0x800000000000

/-- Why a buffer of `size` bytes cannot be had, if it cannot. -/
def refusal? (size : Nat) : Option Failure :=
  if sizeLimit ≤ size then
    some (.worded .outOfMemory
      "memory allocation failed because the computed capacity exceeded the collection's maximum")
  else if memoryLimit ≤ size then
    some (.worded .outOfMemory
      "memory allocation failed because the memory allocator returned an error")
  else none

def zeroed (size : Nat) : Buffer := { size }

/-- Says what failed when there is no memory for a buffer. -/
def context : String := "out of memory allocating message buffer"

def allocate (size : Nat) : Except BenchError Buffer :=
  match refusal? size with
  | some f => .error (.resource context f)
  | none => .ok (zeroed size)

def contents (b : Buffer) : Bytes :=
  b.front ++ List.replicate (b.size - b.front.length) 0

/-- The buffer after `data` has been read into its front; of more than `size` bytes only the
first `size` find room. -/
def overwrite (b : Buffer) (data : Bytes) : Buffer where
  size := b.size
  front := data.take b.size ++ b.front.drop data.length
  front_le := by
    have := b.front_le
    simp only [List.length_append, List.length_take, List.length_drop]
    omega

def isZeroed (b : Buffer) : Bool := b.front.all (· = 0)

theorem length_contents (b : Buffer) : b.contents.length = b.size := by
  have := b.front_le
  simp only [contents, List.length_append, List.length_replicate]
  omega

@[simp] theorem size_overwrite (b : Buffer) (data : Bytes) : (b.overwrite data).size = b.size :=
  rfl

/-- What has been read stands in front, and what stood behind it stays. -/
theorem contents_overwrite (b : Buffer) (data : Bytes) (hfit : data.length ≤ b.size) :
    (b.overwrite data).contents = data ++ b.contents.drop data.length := by
  have hfront := b.front_le
  have hzeros : b.size - (data.length + (b.front.length - data.length)) =
      b.size - b.front.length - (data.length - b.front.length) := by
    omega
  simp only [contents, overwrite, List.take_of_length_le hfit, List.length_append,
    List.length_drop, List.drop_append, List.drop_replicate, List.append_assoc, hzeros]

theorem take_contents_overwrite (b : Buffer) (data : Bytes) (hfit : data.length ≤ b.size) :
    (b.overwrite data).contents.take data.length = data := by
  rw [contents_overwrite b data hfit, List.take_left]

/-- Nothing of a buffer is left after it has been filled to the last byte. -/
theorem contents_overwrite_full (b : Buffer) (data : Bytes) (hfull : data.length = b.size) :
    (b.overwrite data).contents = data := by
  have hrest : b.contents.drop data.length = [] := by
    rw [hfull, ← length_contents, List.drop_length]
  rw [contents_overwrite b data (Nat.le_of_eq hfull), hrest, List.append_nil]

end Buffer

end ReadinessBench

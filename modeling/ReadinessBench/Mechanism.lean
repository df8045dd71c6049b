import ReadinessBench.BenchError

/-!
# Readiness mechanisms

The five ways of finding out which descriptors have something to read. Each has a name, an alias
that says how it works, and a backend that makes its engines. The backends stand in a registry, and
whether only one of several waiting engines can be woken is a matter of the backend.
-/

namespace ReadinessBench

/-- A way of waiting for descriptors to become readable. -/
inductive Mechanism where
  | epoll
  | poll
  | select
  | ioUring
  | threads
  deriving DecidableEq, Repr

namespace Mechanism

def all : List Mechanism := [epoll, poll, select, ioUring, threads]

/-- The mechanism that is used unless another is asked for. -/
def standard : Mechanism := select

def name : Mechanism → String
  | epoll => "epoll"
  | poll => "poll"
  | select => "select"
  | ioUring => "io_uring"
  | threads => "threads"

/-- The second name, which says how the mechanism works. -/
def byname : Mechanism → String
  | epoll => "readiness-list"
  | poll => "bitmask-poll"
  | select => "set-poll"
  | ioUring => "completion-queue"
  | threads => "thread-per-fd"

/-! ## Backends -/

/-- What the backend written for a mechanism says: whether engines can ask that only one of them is
woken per event. -/
def wakesOne : Mechanism → Bool
  | epoll | ioUring => true
  | poll | select | threads => false

/-- The backends in registry order, each told by the mechanism that it has been written for. -/
def registry : Vector Mechanism 5 := #v[epoll, poll, select, ioUring, threads]

theorem ctorIdx_lt (m : Mechanism) : m.ctorIdx < 5 := by
  cases m <;> decide

/-- The backend in the registry at the place of the mechanism among all. -/
def registered (m : Mechanism) : Mechanism := registry.get ⟨m.ctorIdx, m.ctorIdx_lt⟩

/-- The registry has the backends in the order of the mechanisms. -/
@[simp] theorem registered_eq (m : Mechanism) : m.registered = m := by
  cases m <;> rfl

/-- Whether the backend that is registered for a mechanism can wake one engine alone. -/
def supportsExclusive (m : Mechanism) : Bool := m.registered.wakesOne

theorem supportsExclusive_eq (m : Mechanism) : m.supportsExclusive = m.wakesOne := by
  rw [supportsExclusive, registered_eq]

/-! ## Names -/

/-- The mechanism that goes by `word`, as its name or its alias. -/
def named? (word : String) : Option Mechanism :=
  all.find? fun m => m.name = word || m.byname = word

/-- The mechanism that goes by `word`, or the complaint that there is none. -/
def parse (word : String) : Except BenchError Mechanism :=
  match named? word with
  | some m => .ok m
  | none => .error (.unknownEngine word)

theorem mem_all (m : Mechanism) : m ∈ all := by
  cases m <;> decide

end Mechanism

end ReadinessBench

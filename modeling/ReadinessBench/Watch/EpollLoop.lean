import ReadinessBench.Descriptor.Table
import ReadinessBench.Watch.Duty

/-!
# Waiting with epoll

The worker registers every descriptor once under a token, the position of the pair or a token of
its own for the stop request, and gets back the tokens of what is readable, at most two at a time.
-/

namespace ReadinessBench

def stopToken : UInt64 := 0xffffffffffffffff

/-- The event that there is something to read. -/
def readMask : UInt32 := 1

/-- Asks that only one of several waiting engines is woken. -/
def exclusiveMask : UInt32 := 0x10000000

/-- What a registration or a request waits for. -/
def interestMask (exclusive : Bool) : UInt32 :=
  if exclusive then readMask ||| exclusiveMask else readMask

namespace EpollLoop

/-- How many tokens one wake-up brings: one for the busy pair and one for the stop request. -/
def tokensPerWait : Nat := 2

inductive Target where
  /-- A descriptor that is open and not registered yet. -/
  | fresh
  /-- A descriptor that is registered already. -/
  | registered
  | notOpen
  | itself
  deriving DecidableEq, Repr

/-- What a number names for an epoll instance that has registered nothing yet: no number stands
for the instance itself. -/
def Target.ofNumber (t : DescriptorTable) : Option Int → Target
  | none => .itself
  | some n =>
    match t.ensureOpen n with
    | .ok () => .fresh
    | .error _ => .notOpen

def register : Target → Except Failure Unit
  | .fresh => .ok ()
  | .registered => .error (.errno Errno.alreadyExists)
  | .notOpen => .error (.errno Errno.badDescriptor)
  | .itself => .error (.errno Errno.invalidArgument)

def registerAll (watched : List Watched) : Except Failure Unit :=
  go [] watched
where
  go (done : List Nat) : List Watched → Except Failure Unit
    | [] => .ok ()
    | w :: rest =>
      match register (if done.contains w.number then .registered else .fresh) with
      | .error f => .error f
      | .ok () => go (w.number :: done) rest

theorem registerAll_go_eq_ok_iff (done : List Nat) (watched : List Watched) :
    registerAll.go done watched = .ok () ↔
      (watched.map Watched.number).Nodup ∧ ∀ w ∈ watched, w.number ∉ done := by
  induction watched generalizing done with
  | nil => simp [registerAll.go]
  | cons w rest ih =>
    by_cases hdone : w.number ∈ done
    · simp [registerAll.go, hdone, register]
    · simp only [registerAll.go, List.contains_iff_mem, hdone, if_false, register, ih,
        List.map_cons, List.nodup_cons, List.mem_map, List.mem_cons, not_or]
      constructor
      · rintro ⟨hnodup, hfresh⟩
        refine ⟨⟨?_, hnodup⟩, ?_⟩
        · rintro ⟨x, hx, heq⟩
          exact (hfresh x hx).1 heq
        · rintro x (rfl | hx)
          · exact hdone
          · exact (hfresh x hx).2
      · rintro ⟨⟨hhead, hnodup⟩, hfresh⟩
        exact ⟨hnodup, fun x hx => ⟨fun heq => hhead ⟨x, hx, heq⟩, hfresh x (Or.inr hx)⟩⟩

/-- What is registered under which token: the watched pairs by position, and the stop request. -/
def interest (stopNumber : Nat) (watched : List Watched) : List (UInt64 × Nat) :=
  watched.mapIdx (fun i w => (UInt64.ofNat i, w.number)) ++ [(stopToken, stopNumber)]

/-- The kernel accepts the pairs if no descriptor is listed twice. -/
theorem registerAll_eq_ok_iff (watched : List Watched) :
    registerAll watched = .ok () ↔ (watched.map Watched.number).Nodup := by
  rw [registerAll, registerAll_go_eq_ok_iff]
  simp only [List.not_mem_nil, not_false_eq_true, implies_true, and_true]

/-- Handles the tokens of one wake-up in order. A token of no pair is passed over. -/
def wake : List UInt64 → Duty → Verdict × Duty
  | [], d => (.goOn, d)
  | token :: rest, d =>
    if token = stopToken then
      match d.acknowledge with
      | (true, d) => (.exit, d)
      | (false, d) => wake rest d
    else
      match d.watched[token.toNat]? with
      | some w => wake rest (d.echo w.pair)
      | none => wake rest d

end EpollLoop

end ReadinessBench

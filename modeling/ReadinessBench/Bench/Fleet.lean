import ReadinessBench.Bench.Setup

/-!
# Fleets

Engines that are created together and destroyed together. Creation is all or nothing: when one
engine cannot be created, those made before it are destroyed again, the last one first. A fleet is
destroyed in the same order.

What creates the engines is a backend: anything with a name that can create and destroy engines on
a state of its own, in which there is a bench.
-/

namespace ReadinessBench

/-- Something that makes engines. -/
structure Backend (State : Type) where
  name : String
  create : Plan → List Nat → State → Except BenchError EngineHandle × State
  destroy : EngineHandle → State → State
  bench : State → Bench
  setBench : Bench → State → State

namespace Backend

variable {State : Type}

def update (k : Backend State) (f : Bench → Bench) (s : State) : State :=
  k.setBench (f (k.bench s)) s

def record (k : Backend State) (e : Event) (s : State) : State :=
  k.update (·.record e) s

def destroyAll (k : Backend State) (engines : List EngineHandle) (s : State) : State :=
  engines.foldl (fun s e => k.destroy e s) s

end Backend

/-- Engines that belong together, in the order of their creation. -/
abbrev Fleet := List EngineHandle

namespace Fleet

variable {State : Type}

def bytesPerEngine : Nat := 16

/-- Whether room for so many engines can be reserved: whether it can be asked for at all. An
allocator that refuses it is not modelled, since the process is aborted then. -/
def isReservable (count : Nat) : Bool := bytesPerEngine * count < Buffer.sizeLimit

/-- How many worker threads a fleet has, if that fits into 64 bits. -/
def workers (f : Fleet) : Except RangeError Nat :=
  let total := (f.map EngineHandle.workers).foldr (· + ·) 0
  if total < UInt64.size then .ok total else .error .sumOverflow

/-- Creates so many more engines after those already `made`, newest first. -/
def extend (k : Backend State) (p : Plan) (pairs : List Nat) :
    List EngineHandle → Nat → State → Except BenchError Fleet × State
  | made, 0, s => (.ok made.reverse, s)
  | made, n + 1, s =>
    match k.create p pairs s with
    | (.ok e, s) => extend k p pairs (e :: made) n s
    | (.error e, s) =>
      let s := k.record (.creationRolledBack k.name made.length made.length e) s
      (.error e, k.destroyAll made s)

/-- Creates `count` engines on the given pairs, or none. Room for all of them is reserved first. -/
def create (k : Backend State) (p : Plan) (count : Nat) (pairs : List Nat) (s : State) :
    Except RangeError (Except BenchError Fleet × State) :=
  if isReservable count then .ok (extend k p pairs [] count s) else .error .reservationOverflow

def destroy (k : Backend State) (f : Fleet) (s : State) : State :=
  k.destroyAll f.reverse s

end Fleet

namespace Bench

/-- What a backend asks for on behalf of a plan. -/
def request (m : Mechanism) (p : Plan) (pairs : List Nat) (b : Bench) : EngineRequest where
  mechanism := m
  messageSize := p.messageSize
  exclusive := p.exclusive
  watched := pairs.map b.watchedOf

theorem map_pair_request (m : Mechanism) (p : Plan) (pairs : List Nat) (b : Bench) :
    (request m p pairs b).watched.map Watched.pair = pairs := by
  rw [request, List.map_map]
  exact List.map_id pairs

/-- The backend that has been written for a mechanism. -/
def backend (m : Mechanism) : Backend Bench where
  name := m.name
  create p pairs b := b.createEngine (request m p pairs b)
  destroy e b := b.destroyEngine e.id
  bench := id
  setBench b _ := b

end Bench

/-- The backend that is registered for a mechanism. -/
def Mechanism.backend (m : Mechanism) : Backend Bench := Bench.backend m.registered

theorem Mechanism.backend_eq (m : Mechanism) : m.backend = Bench.backend m := by
  rw [backend, registered_eq]

theorem Mechanism.create_backend (m : Mechanism) (p : Plan) (pairs : List Nat) (b : Bench) :
    m.backend.create p pairs b = b.createEngine (Bench.request m p pairs b) := by
  rw [backend_eq]
  rfl

end ReadinessBench

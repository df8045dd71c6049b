import ReadinessBench.Bench.Basic

/-!
# Setting up an engine

What an engine checks and acquires when it is created is a list of steps, one list for each
mechanism. The steps are performed in order. If one of them fails, the descriptors opened by the
earlier ones are closed again, and the error is that step's.
-/

namespace ReadinessBench

/-- What an engine is asked to be. -/
structure EngineRequest where
  mechanism : Mechanism
  messageSize : Nat
  exclusive : Bool
  watched : List Watched
  deriving DecidableEq

inductive SetupStep where
  /-- Refuses a wish for exclusive wakeups that the mechanism cannot grant. -/
  | checkExclusive
  /-- Makes reads on all watched pairs wait. This stays so whatever comes later. -/
  | blockReads
  /-- All watched descriptors must fit into a descriptor set. -/
  | checkSelectable
  | buffer
  /-- A worker with a message buffer of its own for each watched pair. Workers that could be
  started before one could not are stopped again. -/
  | workers
  /-- A descriptor; the text says what failed if it cannot be opened. -/
  | descriptor (context : String)
  /-- Room for a poll slot for each watched pair and one for the stop request. -/
  | slots
  | register (context : String)
  /-- The descriptor opened last must fit into a descriptor set. -/
  | checkLastSelectable
  deriving DecidableEq, Repr

/-- Says what failed when the descriptor of the stop request cannot be opened. -/
def stopContext : String := "eventfd creation failed"

/-- Says what failed when there is no memory for the poll slots. -/
def slotsContext : String := "out of memory allocating poll descriptors"

def bytesPerSlot : Nat := 8

/-- What an engine of each mechanism goes through to come into being. -/
def Mechanism.setup : Mechanism → List SetupStep
  | .epoll => [.checkExclusive, .buffer, .descriptor "epoll_create1 failed",
      .register "epoll_ctl failed", .descriptor stopContext]
  | .poll => [.checkExclusive, .buffer, .descriptor stopContext, .slots]
  | .select => [.checkExclusive, .checkSelectable, .buffer, .descriptor stopContext,
      .checkLastSelectable]
  | .ioUring => [.checkExclusive, .buffer,
      .descriptor "io_uring_queue_init failed (do you need to increase ulimit -l?)",
      .descriptor stopContext]
  | .threads => [.checkExclusive, .blockReads, .workers]

namespace EngineRequest

/-- The first watched descriptor that does not fit into a descriptor set is refused. -/
def checkSelectable (watched : List Watched) : Except BenchError Unit :=
  forM watched (ensureSelectable ·.number)

theorem checkSelectable_ok_iff {watched : List Watched} :
    checkSelectable watched = .ok () ↔ ∀ w ∈ watched, w.number < selectCapacity := by
  unfold checkSelectable
  induction watched with
  | nil => exact iff_of_true rfl nofun
  | cons w rest ih =>
    rw [List.forM_cons, List.forall_mem_cons, ← ih]
    by_cases hw : w.number < selectCapacity
    · rw [ensureSelectable_natCast_iff.mpr hw]
      exact (and_iff_right hw).symm
    · rw [ensureSelectable_misfit (Nat.not_lt.mp hw)]
      exact iff_of_false nofun fun h => hw h.1

/-- What becomes of a step that has asked for memory. -/
def granted (context : String) : Option Failure × Bench → Except BenchError (List Nat) × Bench
  | (none, b) => (.ok [], b)
  | (some f, b) => (.error (.resource context f), b)

/-- Performs one step: the descriptors it has opened, and the bench. `opened` are those opened by
earlier steps. -/
def perform (r : EngineRequest) (opened : List Nat) (b : Bench) :
    SetupStep → Except BenchError (List Nat) × Bench
  | .checkExclusive =>
    if r.exclusive && !r.mechanism.wakesOne then
      (.error (.unsupportedExclusive r.mechanism.name), b)
    else (.ok [], b)
  | .blockReads => (.ok [], r.watched.foldl (fun b w => b.updatePair w.pair .setBlocking) b)
  | .checkSelectable => ((checkSelectable r.watched).map fun _ => [], b)
  | .buffer => granted Buffer.context (b.allocate r.messageSize)
  | .workers =>
    match granted Buffer.context (b.allocateEach r.messageSize r.watched.length) with
    | (.ok opened, b) => (.ok opened, b)
    | (.error e, b) => (.error e, b.record (.workersStopped r.mechanism.name))
  | .descriptor context =>
    match b.openOne with
    | .ok (n, b) => (.ok [n], b)
    | .error f => (.error (.resource context f), b)
  | .slots => granted slotsContext (b.allocate (bytesPerSlot * (r.watched.length + 1)))
  | .register context =>
    match EpollLoop.registerAll r.watched with
    | .ok () => (.ok [], b)
    | .error f => (.error (.resource context f), b)
  | .checkLastSelectable => ((ensureSelectable (opened.getLastD 0)).map fun _ => [], b)

/-- Performs the steps in order: all descriptors opened, and the bench. -/
def performAll (r : EngineRequest) (opened : List Nat) (b : Bench) :
    List SetupStep → Except BenchError (List Nat) × Bench
  | [] => (.ok opened, b)
  | step :: rest =>
    match r.perform opened b step with
    | (.ok fresh, b) => r.performAll (opened ++ fresh) b rest
    | (.error e, b) => (.error e, b.close opened)

end EngineRequest

structure EngineHandle where
  id : Nat
  workers : Nat
  deriving DecidableEq, Repr

def Watcher.startEvent (w : Watcher) : Event :=
  match w.mechanism with
  | .threads => .workersStarted w.mechanism.name w.workers
  | _ => .engineStarted w.mechanism.name

def Watcher.stopEvent (w : Watcher) : Event :=
  match w.mechanism with
  | .threads => .workersStopped w.mechanism.name
  | _ => .engineStopped w.mechanism.name

namespace Bench

def createEngine (b : Bench) (r : EngineRequest) : Except BenchError EngineHandle × Bench :=
  match r.performAll [] b r.mechanism.setup with
  | (.error e, b) => (.error e, b)
  | (.ok owned, b) =>
    let w : Watcher := {
      mechanism := r.mechanism
      watched := r.watched
      buffer := .zeroed r.messageSize
      owned }
    let w := { w with ring := .watching (interestMask r.exclusive) r.watched w.stopNumber }
    let b := r.watched.foldl (fun b x => b.share x.pair) b
    let b := { b with
      watchers := b.watchers ++ [(b.nextWatcher, w)]
      nextWatcher := b.nextWatcher + 1 }
    (.ok ⟨b.nextWatcher - 1, w.workers⟩, b.record w.startEvent)

/-- Destroys an engine: its worker stops, its descriptors are closed and its shares given back. -/
def destroyEngine (b : Bench) (id : Nat) : Bench :=
  match b.watchers.lookup id with
  | none => b
  | some w =>
    let b := { b with watchers := b.watchers.filter (·.1 ≠ id) }
    let b := b.close w.owned
    let b := w.watched.foldl (fun b x => b.unshare x.pair) b
    b.record w.stopEvent

end Bench

end ReadinessBench

import ReadinessBench.Bench.Fleet
import ReadinessBench.Proofs.Bench.Books
import ReadinessBench.Proofs.Stop.Tenure
import ReadinessBench.Proofs.Watch.Attention

/-!
# A bench and its workers

Engines of all mechanisms are created and destroyed while a generator uses the pairs. The worker of
each engine that waits for stop requests takes its own steps on the sockets that it shares with all
others, in any order. A read at an engines' end that waits for data waits: until then its worker
takes no step, and until a worker has ended its engine is not destroyed.

A fleet is created engine by engine, and destroyed so.
-/

namespace ReadinessBench

namespace Body

/-- The pair that the worker reads next, if a read is next. -/
def nextRead : Body → Option Nat
  | .loop s =>
    match s.ending, s.todo with
    | .waiting, .echo pair :: _ => some pair
    | _, _ => none
  | .ring s =>
    match s.ending, s.batch with
    | .waiting, (token, result) :: _ =>
      match RingWorker.notice s.worker.duty.watched.length token result with
      | .readable i => s.worker.duty.watched[i]?.map Watched.pair
      | _ => none
    | _, _ => none

def withSockets (b : Body) (sockets : Array SocketPair) : Body :=
  b.withDuty { b.duty with sockets }

/-- The pair on which the worker's next read would wait. -/
def waitsAt (b : Body) : Option Nat :=
  b.nextRead.filter fun pair => b.duty.sockets[pair]?.any (·.wouldWait b.duty.buffer.size)

end Body

/-- The worker of an engine that has just been created. The threads of a threads engine wait for no
stop request. -/
def Watcher.body (w : Watcher) (sockets : Array SocketPair) : Option Body :=
  match w.mechanism with
  | .threads => none
  | .ioUring =>
    let worker : RingWorker := {
      ring := w.ring, stopNumber := w.stopNumber, duty := w.duty sockets }
    some (.ring { worker })
  | m => some (.loop { mechanism := m, stopNumber := w.stopNumber, duty := w.duty sockets })

structure Workshop where
  bench : Bench
  /-- All workers so far, each with the number of its engine. -/
  workers : List (Nat × Body) := []

namespace Workshop

inductive Move where
  | openPairs (count : Nat)
  | dropPair (pair : Nat)
  | create (m : Mechanism) (p : Plan) (pairs : List Nat)
  /-- The worker in this place is asked to stop. -/
  | raise (k : Nat)
  /-- The engine is destroyed, if its worker has ended. -/
  | destroy (id : Nat)
  | send (pair : Nat) (data : Bytes)
  | receive (pair n : Nat)
  | shutdown (pair : Nat) (d : SocketPair.Direction)
  | turn (k : Nat) (x : Body.Turn)
  | answer (k : Nat) (token : UInt64) (result : Int32)
  /-- A thread of a threads engine reads and echoes. -/
  | serve (id pair : Nat)
  /-- So many more descriptors may be opened from now on. -/
  | grant (left : Option Nat)

def withWorker (s : Workshop) (k : Nat) (f : Body → Body) : Workshop :=
  { s with workers := s.workers.modify k fun (id, b) => (id, f b) }

def create (s : Workshop) (m : Mechanism) (p : Plan) (pairs : List Nat) : Workshop :=
  if pairs.all s.bench.isHeld then
    match m.backend.create p pairs s.bench with
    | (.ok e, bench) =>
      let hired := (bench.watchers.lookup e.id).bind (·.body bench.sockets)
      { bench, workers := s.workers ++ hired.toList.map fun b => (e.id, b) }
    | (.error _, bench) => { s with bench }
  else s

def destroy (s : Workshop) (id : Nat) : Workshop :=
  if s.workers.all fun (owner, b) => owner ≠ id || b.ending ≠ .waiting then
    { s with bench := s.bench.destroyEngine id }
  else s

def turn (s : Workshop) (k : Nat) (x : Body.Turn) : Workshop :=
  match s.workers[k]? with
  | none => s
  | some (id, b) =>
    let b := b.withSockets s.bench.sockets
    if b.waitsAt.isSome then s
    else
      let b := b.act x
      { bench := { s.bench with sockets := b.duty.sockets }, workers := s.workers.set k (id, b) }

-- What a thread's own buffer holds from before is of no account.
def serve (s : Workshop) (id pair : Nat) : Workshop :=
  match s.bench.watchers.lookup id with
  | none => s
  | some w =>
    if w.mechanism = .threads ∧ pair ∈ w.watched.map Watched.pair then
      { s with bench := (s.bench.echo pair w.buffer).2.2 }
    else s

/-- One move. What cannot happen changes nothing. -/
def step (s : Workshop) : Move → Workshop
  | .openPairs count => { s with bench := (s.bench.openPairs count).2 }
  | .dropPair pair => { s with bench := s.bench.dropPair pair }
  | .create m p pairs => s.create m p pairs
  | .raise k => s.withWorker k fun b => b.withDuty { b.duty with stop := b.duty.stop.raise }
  | .destroy id => s.destroy id
  | .send pair data => { s with bench := (s.bench.send pair data).2 }
  | .receive pair n => { s with bench := (s.bench.receive pair n).2 }
  | .shutdown pair d => { s with bench := s.bench.updatePair pair (·.shutdown .generator d) }
  | .turn k x => s.turn k x
  | .answer k token result => s.withWorker k (·.answer token result)
  | .serve id pair => s.serve id pair
  | .grant left =>
    { s with bench := { s.bench with table := { s.bench.table with budget := left } } }

def run (s : Workshop) (moves : List Move) : Workshop := moves.foldl step s

theorem run_append (s : Workshop) (moves more : List Move) :
    s.run (moves ++ more) = (s.run moves).run more :=
  List.foldl_append

/-- The pair on which the next read of the worker in this place would wait. -/
def waitsAt (s : Workshop) (k : Nat) : Option Nat :=
  s.workers[k]?.bind fun (_, b) => (b.withSockets s.bench.sockets).waitsAt

end Workshop

end ReadinessBench

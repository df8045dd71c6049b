import ReadinessBench.Session.Step
import ReadinessBench.Watch.Trial
import ReadinessBench.Workload.Traffic

/-!
# Playing a session

What each step of a session does to the bench and what it answers. Between the steps the engines at
work echo whatever has arrived.
-/

namespace ReadinessBench

inductive Slot where
  | engine (kind : Mechanism) (e : EngineHandle)
  | fleet (kind : Mechanism) (f : Fleet)

/-- A worker with a ring that is driven by hand. -/
structure HandWorker where
  ring : Ring
  watched : List Watched
  buffer : Buffer
  stop : StopCounter := {}
  /-- The descriptors of the ring and of the stop request. -/
  owned : List Nat

namespace HandWorker

def on (h : HandWorker) (sockets : Array SocketPair) : RingWorker where
  ring := h.ring
  stopNumber := h.owned.getLastD 0
  duty := { watched := h.watched, buffer := h.buffer, stop := h.stop, sockets }

def off (h : HandWorker) (w : RingWorker) : HandWorker :=
  { h with ring := w.ring, buffer := w.duty.buffer, stop := w.duty.stop }

end HandWorker

structure Session where
  bench : Bench := {}
  /-- The pairs that the session holds, by their position on the bench. -/
  pairs : List Nat := []
  slots : List (Option Slot) := []
  hand : Option HandWorker := none

namespace Session

def position (s : Session) (pair : Nat) : Nat := s.pairs.getD pair s.bench.sockets.size

/-- The pairs that a step names, or all of them. -/
def chosen (s : Session) : Option (List Nat) → List Nat
  | some endpoints => endpoints.map s.position
  | none => s.pairs

def onBench (s : Session) (f : Bench → Bench) : Session := { s with bench := f s.bench }

/-- Whether a read at the engines' end of the pair at this position does not wait. -/
def isNonblocking (s : Session) (position : Nat) : Bool :=
  match s.bench.sockets[position]? with
  | some p => !p.blocking
  | none => true

/-! ## Pairs and engines -/

def openPairs (s : Session) (count : Nat) (moves : List Nat) : SessionAnswer × Session :=
  match s.bench.openPairs count with
  | (.error e, b) => (.refused e, { s with bench := b })
  | (.ok pairs, b) =>
    let b := (pairs.zip moves).foldl (fun b (pair, number) => b.moveEnd pair number) b
    let s := { s with bench := b.dropPairs s.pairs, pairs }
    (.pairs ⟨pairs.length, pairs.map s.isNonblocking⟩, s)

def EngineWish.plan (w : EngineWish) : Except BenchError Plan :=
  ({ mechanism := w.planKind, messageSize := w.messageSize, exclusive := w.exclusive } :
    Draft).check

def createEngine (s : Session) (w : EngineWish) : SessionAnswer × Session :=
  match EngineWish.plan w with
  | .error e => (.refused e, s)
  | .ok plan =>
    let k := w.kind.backend
    let pairs := s.chosen w.endpoints
    match w.count with
    | none =>
      match k.create plan pairs s.bench with
      | (.error e, b) => (.refused e, { s with bench := b })
      | (.ok e, b) =>
        (.engine k.name e.workers,
          { s with bench := b, slots := s.slots ++ [some (.engine w.kind e)] })
    | some count =>
      match Fleet.create k plan count pairs s.bench with
      | .error r => (.collapsed r, s)
      | .ok (.error e, b) => (.refused e, { s with bench := b })
      | .ok (.ok f, b) =>
        let answer : SessionAnswer := match f.workers with
          | .ok n => .fleet f.length n
          | .error r => .collapsed r
        (answer, { s with bench := b, slots := s.slots ++ [some (.fleet w.kind f)] })

def Slot.destroy (b : Bench) : Slot → Bench
  | .engine kind e => kind.backend.destroy e b
  | .fleet kind f => f.destroy kind.backend b

def destroySlot (s : Session) (slot : Nat) : SessionAnswer × Session :=
  match s.slots.getD slot none with
  | none => (.destroyed .empty, s)
  | some x =>
    (.destroyed (match x with | .engine .. => .engine | .fleet .. => .fleet),
      { s with bench := Slot.destroy s.bench x, slots := s.slots.set slot none })

/-! ## Bytes -/

/-- Writes at the generator's end and reads as much back; nothing is done for no bytes. -/
def trip (s : Session) (pair : Nat) (data : Bytes) : SessionAnswer × Session :=
  if data.isEmpty then (.tripped [], s)
  else
    let pair := s.position pair
    match s.bench.send pair data with
    | (.error f, b) => (.failed f, { s with bench := b })
    | (.ok _, b) =>
      let (receipt, b) := b.settle.receive pair data.length
      (if receipt.data.length = data.length then .tripped receipt.data
        else .failed (.worded .unexpectedEof "failed to fill whole buffer"),
        { s with bench := b })

def writeAnswer : Except Failure Nat → SessionAnswer
  | .ok n => .written n
  | .error f => .failed f

def readAnswer (r : Receipt) : SessionAnswer :=
  match r.withoutWaiting with
  | .ok data => .read data
  | .error f => .failed f

/-- What a buffer is filled with before an echo step, so that untouched bytes show. -/
def filler : UInt8 := 0xee

/-- One echo step with a buffer of so many bytes, unless it would have to wait. -/
def echoStep (s : Session) (pair size : Nat) : SessionAnswer × Session :=
  let pair := s.position pair
  match s.bench.sockets[pair]? with
  | none => (.done, s)
  | some p =>
    if p.wouldWait size then (.wouldWait, s)
    else
      let buffer : Buffer := { size, front := List.replicate size filler }
      let (echoed, buffer, b) := s.bench.echo pair buffer
      (.echoed echoed buffer.contents, { s with bench := b })

/-! ## Workers -/

/-- Runs a worker whose stop request has been raised before it starts, and which therefore ends
with its first wake-up. -/
def runStopped (s : Session) (kind : Mechanism) (pair size : Nat) : SessionAnswer :=
  let watched := [s.bench.watchedOf (s.position pair)]
  match Trial.start kind size watched (StopCounter.raise {}) s.bench.sockets none with
  | .error e => .refused e
  | .ok .waiting => .done
  | .ok .stopped | .ok .broken | .ok (.collapsed _) => .workerExited

/-- Drives traffic over the pairs of the session with a token of its own. -/
def generate (s : Session) (size : Nat) (seed : UInt64) (cancelled : Bool) :
    SessionAnswer × Session :=
  match s.bench.prepare s.pairs.length size with
  | (.error e, b) => (.refused e, { s with bench := b })
  | (.ok w, b) =>
    let b := { b with cancelled }
    let (ending, b) := b.drive w s.pairs ⟨seed.toNat⟩ (b.tripsUntilIdle s.pairs)
    (.traffic ending.roundTrips ending.fault, { s with bench := { b with cancelled := false } })

def dropHand (s : Session) : Session :=
  match s.hand with
  | none => s
  | some h =>
    let b := s.bench.close h.owned
    { s with bench := h.watched.foldl (fun b x => b.unshare x.pair) b, hand := none }

/-- The steps that a worker driven by hand goes through to come into being. -/
def handSetup : List SetupStep := [.descriptor "ring", .descriptor stopContext, .buffer]

/-- Makes a worker that is driven by hand; it replaces the former one. -/
def makeHand (s : Session) (endpoints : Option (List Nat)) (size : Nat) (exclusive : Bool) :
    SessionAnswer × Session :=
  let watched := (s.chosen endpoints).map s.bench.watchedOf
  let request : EngineRequest :=
    { mechanism := .ioUring, messageSize := size, exclusive, watched }
  match request.performAll [] s.bench handSetup with
  | (.error e, b) => (.refused e, { s with bench := b })
  | (.ok owned, b) =>
    let b := watched.foldl (fun b x => b.share x.pair) b
    let hand : HandWorker :=
      { ring := { mask := interestMask exclusive }, watched, buffer := .zeroed size, owned }
    (.done, { dropHand { s with bench := b } with hand := some hand })

def armHand (s : Session) (pair : Nat) (token : UInt64) : SessionAnswer × Session :=
  match s.hand with
  | none => (.done, s)
  | some h =>
    let number := (s.bench.watchedOf (s.position pair)).number
    match h.ring.arm ⟨token, number⟩ .all with
    | (.error f, ring) => (.failed f, { s with hand := some { h with ring } })
    | (.ok (), ring) => (.armed ring.queued.length, { s with hand := some { h with ring } })

/-- The same answered request handled so many times, even if the worker wants to end: the last
verdict, all that is reported, and the worker. A worker that breaks down handles no more. -/
def completeTimes (token : UInt64) (result : Int32) :
    Nat → Verdict × List Event × RingWorker → Verdict × List Event × RingWorker
  | 0, r => r
  | _ + 1, (.collapse r, events, w) => (.collapse r, events, w)
  | n + 1, (_, events, w) =>
    let (verdict, more, w) := w.complete token result .all
    completeTimes token result n (verdict, events ++ more, w)

def completeHand (s : Session) (token : UInt64) (result : Int32) (times : Nat) :
    SessionAnswer × Session :=
  match s.hand with
  | none => (.done, s)
  | some h =>
    let (verdict, events, w) :=
      completeTimes token result times (.goOn, [], h.on s.bench.sockets)
    let b := { s.bench with sockets := w.duty.sockets }
    let answer : SessionAnswer := match verdict with
      | .collapse r => .collapsed r
      | v => .completed (v = .exit) w.ring.queued.length
    (answer, { s with bench := b.recordAll events, hand := some (h.off w) })

/-! ## Steps -/

/-- What a step does, before the engines at work echo what has arrived. -/
def act (s : Session) : SessionStep → SessionAnswer × Session
  | .pairs count moves => s.openPairs count moves
  | .dropPairs => (.done, { s with bench := s.bench.dropPairs s.pairs, pairs := [] })
  | .engine wish => s.createEngine wish
  | .destroy slot => s.destroySlot slot
  | .trip pair data => s.trip pair data
  | .write pair data =>
    let (r, b) := s.bench.send (s.position pair) data
    (writeAnswer r, { s with bench := b })
  | .feed pair data =>
    let (r, b) := s.bench.reply (s.position pair) data
    (writeAnswer r, { s with bench := b })
  | .read pair max =>
    let (r, b) := s.bench.receive (s.position pair) max
    (readAnswer r, { s with bench := b })
  | .drain pair max =>
    let (r, b) := s.bench.accept (s.position pair) max
    (readAnswer r, { s with bench := b })
  | .echo pair size => s.echoStep pair size
  | .setBlocking pair => (.switched, s.onBench (·.updatePair (s.position pair) .setBlocking))
  | .nonblocking pair => (.modes false (s.isNonblocking (s.position pair)), s)
  | .shutdown pair e d => (.shut, s.onBench (·.updatePair (s.position pair) (·.shutdown e d)))
  | .budget free => (.done, s.onBench fun b => { b with table := { b.table with budget := free } })
  | .fill below => (.done, s.onBench fun b => { b with table := b.table.fill below })
  | .unfill => (.done, s.onBench fun b => { b with table := b.table.unfill })
  | .interrupt => (.done, s)
  | .runStopped kind pair size => (s.runStopped kind pair size, s)
  | .generate size seed cancelled => s.generate size seed cancelled
  | .ring endpoints size exclusive => s.makeHand endpoints size exclusive
  | .ringDrop => (.done, s.dropHand)
  | .ringRaise =>
    (.done, { s with hand := s.hand.map fun h => { h with stop := h.stop.raise } })
  | .ringArm pair token => s.armHand pair token
  | .ringComplete token result times => s.completeHand token result times

/-- One step of a session, after which the engines at work echo what has arrived. -/
def step (s : Session) (x : SessionStep) : SessionAnswer × Session :=
  let (answer, s) := s.act x
  (answer, s.onBench Bench.settle)

def openCount (s : Session) : Nat := s.bench.table.openCount - DescriptorTable.initial.openCount

def dropAll (s : Session) : Session :=
  let s := s.dropHand
  let b := (s.slots.filterMap fun x => x).foldl Slot.destroy s.bench
  { s with bench := b.dropPairs s.pairs, pairs := [], slots := [] }

/-- What is told about one step: its answer, the descriptors open after it, and what was
reported. -/
structure StepReport where
  answer : SessionAnswer
  openCount : Nat
  events : List Event

/-- Plays a session: what is told about each step, and the descriptors open in the end. -/
def play (s : Session) : List SessionStep → Except RangeError (List StepReport × Nat)
  | [] => .ok ([], s.dropAll.openCount)
  | x :: rest =>
    match s.step x with
    | (.collapsed r, _) => .error r
    | (answer, s') =>
      let events := (s'.bench.journal.extract s.bench.journal.size s'.bench.journal.size).toList
      (s'.play rest).map fun (reports, final) =>
        (⟨answer, s'.openCount, events⟩ :: reports, final)

end Session

end ReadinessBench

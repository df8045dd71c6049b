import ReadinessBench.Descriptor.Table
import ReadinessBench.Timer
import ReadinessBench.Watch.Watcher

/-!
# The bench

Everything a run stands on: the descriptors of the process, its memory, the socket pairs, the
engines at work, the journal, and whether the run has been cancelled.

A pair keeps its place in the list for good, so its position names it. Its generator's end is open
as long as the pair is held. Its engines' end is shared: by the pair and by every engine for each
time it lists the pair. The last of them to go closes it.
-/

namespace ReadinessBench

/-- Who keeps the two descriptors of a pair open. -/
structure Holding where
  generatorNumber : Nat
  engineNumber : Nat
  /-- The pair itself has not been dropped. -/
  held : Bool := true
  /-- How many share the engines' end, the pair included. -/
  shares : Nat := 1
  deriving DecidableEq, Repr

structure Bench where
  table : DescriptorTable := .initial
  sockets : Array SocketPair := #[]
  holdings : Array Holding := #[]
  /-- The engines at work with the number by which each is known, in order of creation. -/
  watchers : List (Nat × Watcher) := []
  nextWatcher : Nat := 0
  journal : Array Event := #[]
  cancelled : Bool := false
  /-- What the allocator will have against the coming requests, whatever their size. It has nothing
  against those that are not listed. -/
  shortages : List (Option Failure) := []
  /-- What the coming timers fail at, and why. Those not listed can be armed. -/
  unarmed : List (Option (ArmingStep × Failure)) := []

namespace Bench

def record (b : Bench) (e : Event) : Bench := { b with journal := b.journal.push e }

def recordAll (b : Bench) (es : List Event) : Bench := es.foldl record b

def cancel (b : Bench) : Bench := { b with cancelled := true }

def close (b : Bench) (numbers : List Nat) : Bench :=
  { b with table := b.table.closeAll numbers }

def openOne (b : Bench) : Except Failure (Nat × Bench) :=
  b.table.openOne.map fun (n, table) => (n, { b with table })

/-- Asks for so many bytes: why they cannot be had, if they cannot. -/
def allocate (b : Bench) (size : Nat) : Option Failure × Bench :=
  match b.shortages with
  | [] => (Buffer.refusal? size, b)
  | shortage :: rest => (shortage <|> Buffer.refusal? size, { b with shortages := rest })

/-- Asks for so many bytes so many times, until they cannot be had. -/
def allocateEach (b : Bench) (size : Nat) : Nat → Option Failure × Bench
  | 0 => (none, b)
  | n + 1 =>
    match b.allocate size with
    | (none, b) => b.allocateEach size n
    | refused => refused

/-- Arms the timer of a run: why it cannot be armed, if it cannot. -/
def arm (b : Bench) : Option BenchError × Bench :=
  (b.unarmed.head?.join.map fun (step, f) => .resource step.context f,
    { b with unarmed := b.unarmed.tail })

/-! ## Pairs -/

def updatePair (b : Bench) (pair : Nat) (f : SocketPair → SocketPair) : Bench :=
  { b with sockets := b.sockets.modify pair f }

def watchedOf (b : Bench) (pair : Nat) : Watched :=
  ⟨pair, (b.holdings[pair]?.map Holding.engineNumber).getD 0⟩

def share (b : Bench) (pair : Nat) : Bench :=
  { b with holdings := b.holdings.modify pair fun h => { h with shares := h.shares + 1 } }

/-- Gives a share in the engines' end of a pair back; the last one closes it. -/
def unshare (b : Bench) (pair : Nat) : Bench :=
  match b.holdings[pair]? with
  | none => b
  | some h =>
    let b := { b with
      holdings := b.holdings.setIfInBounds pair { h with shares := h.shares - 1 } }
    if h.shares = 1 then b.close [h.engineNumber] else b

def addPair (b : Bench) (engineNumber generatorNumber : Nat) (table : DescriptorTable) : Bench :=
  { b with
    table
    sockets := b.sockets.push .fresh
    holdings := b.holdings.push { generatorNumber, engineNumber } }

/-- Drops a pair: the generator's end is closed, and the pair's share in the engines' end is given
back. -/
def dropPair (b : Bench) (pair : Nat) : Bench :=
  match b.holdings[pair]? with
  | none => b
  | some h =>
    if h.held then
      let b := { b with
        holdings := b.holdings.setIfInBounds pair { h with held := false } }
      let b := b.updatePair pair (·.shutdown .generator .both)
      (b.close [h.generatorNumber]).unshare pair
    else b

def dropPairs (b : Bench) (pairs : List Nat) : Bench := pairs.reverse.foldl dropPair b

/-- Opens `count` more pairs after those already `made`, newest first. The engines' end of a pair
gets the lower number. If a pair cannot be opened, all of them are dropped. -/
def openMore (made : List Nat) : Nat → Bench → Except BenchError (List Nat) × Bench
  | 0, b => (.ok made.reverse, b.record (.pairsCreated made.length))
  | n + 1, b =>
    match b.table.openTwo with
    | .ok (engine, generator, table) =>
      openMore (b.sockets.size :: made) n (b.addPair engine generator table)
    | .error f => (.error (.resource "socketpair failed" f), made.foldl dropPair b)

def openPairs (b : Bench) (count : Nat) : Except BenchError (List Nat) × Bench :=
  openMore [] count b

def moveEnd (b : Bench) (pair number : Nat) : Bench :=
  match b.holdings[pair]? with
  | none => b
  | some h => { b with
      table := b.table.move h.engineNumber number
      holdings := b.holdings.setIfInBounds pair { h with engineNumber := number } }

/-! ## Traffic -/

/-- Lets one engine after the other work until nothing waits on its pairs. -/
def settle (b : Bench) : Bench :=
  let (watchers, sockets) := b.watchers.foldl
    (fun (done, sockets) (id, w) =>
      let (w, sockets) := w.settle sockets
      ((id, w) :: done, sockets))
    ([], b.sockets)
  { b with watchers := watchers.reverse, sockets }

/-- Writes at the generator's end of a pair: how many bytes, or why none. -/
def send (b : Bench) (pair : Nat) (data : Bytes) : Except Failure Nat × Bench :=
  match b.sockets[pair]? with
  | none => (.error (.errno Errno.badDescriptor), b)
  | some p =>
    match p.send data with
    | .ok p => (.ok data.length, { b with sockets := b.sockets.setIfInBounds pair p })
    | .error f => (.error f, b)

theorem send_ok {b : Bench} {pair : Nat} {p q : SocketPair} {data : Bytes}
    (hp : b.sockets[pair]? = some p) (hsend : p.send data = .ok q) :
    b.send pair data =
      (.ok data.length, { b with sockets := b.sockets.setIfInBounds pair q }) := by
  simp only [send, hp, hsend]

def receive (b : Bench) (pair n : Nat) : Receipt × Bench :=
  match b.sockets[pair]? with
  | none => (.endOfFile, b)
  | some p =>
    let (r, p) := p.receive n
    (r, { b with sockets := b.sockets.setIfInBounds pair p })

theorem receive_eq {b : Bench} {pair n : Nat} {p : SocketPair} (hp : b.sockets[pair]? = some p) :
    b.receive pair n =
      ((p.receive n).1, { b with sockets := b.sockets.setIfInBounds pair (p.receive n).2 }) := by
  simp only [receive, hp]

/-- Writes at the engines' end of a pair: how many bytes, or why none. -/
def reply (b : Bench) (pair : Nat) (data : Bytes) : Except Failure Nat × Bench :=
  match b.sockets[pair]? with
  | none => (.error (.errno Errno.badDescriptor), b)
  | some p =>
    match p.reply data with
    | .ok (n, p) => (.ok n, { b with sockets := b.sockets.setIfInBounds pair p })
    | .error f => (.error f, b)

def accept (b : Bench) (pair n : Nat) : Receipt × Bench :=
  match b.sockets[pair]? with
  | none => (.endOfFile, b)
  | some p =>
    let (r, p) := p.accept n
    (r, { b with sockets := b.sockets.setIfInBounds pair p })

def echo (b : Bench) (pair : Nat) (buffer : Buffer) : Bool × Buffer × Bench :=
  match b.sockets[pair]? with
  | none => (false, buffer, b)
  | some p =>
    let (echoed, buffer, p) := p.echo buffer
    (echoed, buffer, { b with sockets := b.sockets.setIfInBounds pair p })

/-- Whether everything that is sent to the pair comes back: an engine at work watches the pair, and
both of its directions are open. -/
def echoes (b : Bench) (pair : Nat) : Bool :=
  (b.watchers.any fun (_, w) => w.watched.any (·.pair = pair)) &&
    match b.sockets[pair]? with
    | some p => p.requests.isOpen && p.replies.isOpen
    | none => false

end Bench

end ReadinessBench

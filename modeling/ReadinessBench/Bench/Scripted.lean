import ReadinessBench.Bench.Run

/-!
# Scripted engines

A backend whose engines do nothing but leave a trace. What happens when one is created follows a
script: it may fail, cancel the run, or act on the engines' ends of the pairs.
-/

namespace ReadinessBench

/-- One thing that happens while a scripted engine is created. -/
inductive ScriptAction where
  | fail (error : BenchError)
  | workers (n : Nat)
  | cancel
  | feed (pair : Nat) (data : Bytes)
  | shutdown (pair : Nat) (direction : SocketPair.Direction)
  deriving DecidableEq

namespace ScriptAction

/-- The failure that a script uses if it names no other. -/
def injected : BenchError := .resource "injected failure" (.worded .other "injected")

end ScriptAction

/-- What scripted engines leave behind. -/
inductive Trace where
  | created (id pairs messageSize : Nat)
  | destroyed (id : Nat)
  deriving DecidableEq, Repr

structure Stagecraft where
  bench : Bench := {}
  script : List (List ScriptAction) := []
  begun : Nat := 0
  trace : Array Trace := #[]

namespace Stagecraft

/-- Performs the actions of one creation; how many workers the engine has. -/
def perform (pairs : List Nat) :
    List ScriptAction → Nat → Bench → Except BenchError Nat × Bench
  | [], workers, b => (.ok workers, b)
  | .fail e :: _, _, b => (.error e, b)
  | .workers n :: rest, _, b => perform pairs rest n b
  | .cancel :: rest, workers, b => perform pairs rest workers b.cancel
  | .feed i data :: rest, workers, b =>
    perform pairs rest workers (b.reply (pairs.getD i 0) data).2
  | .shutdown i d :: rest, workers, b =>
    perform pairs rest workers (b.updatePair (pairs.getD i 0) (·.shutdown .engine d))

def create (p : Plan) (pairs : List Nat) (s : Stagecraft) :
    Except BenchError EngineHandle × Stagecraft :=
  let id := s.begun
  let (result, bench) := perform pairs (s.script.getD id []) 1 s.bench
  (result.map fun workers => ⟨id, workers⟩, { s with
    bench
    begun := id + 1
    trace := s.trace.push (.created id pairs.length p.messageSize) })

def backend (name : String) : Backend Stagecraft where
  name := name
  create := create
  destroy e s := { s with trace := s.trace.push (.destroyed e.id) }
  bench := Stagecraft.bench
  setBench b s := { s with bench := b }

end Stagecraft

end ReadinessBench

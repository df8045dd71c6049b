import ReadinessBench.Bench.Run
import ReadinessBench.Proofs.Bench.Fleets
import ReadinessBench.Proofs.Bench.Hindered
import ReadinessBench.Proofs.Bench.Traffic

/-!
# Scripts

A script opens and drops pairs, creates and destroys engines and fleets, makes whole runs and moves
bytes, in any order. In between, what the process has to work with may change: descriptors run out
or are granted again, the allocator refuses, a timer cannot be armed, and a creation is broken off
at any of its steps. A rule says which steps may be taken; the others are skipped.
-/

namespace ReadinessBench

/-! ## Surroundings -/

/-- A bench in surroundings that may hinder the creations of engines. -/
structure Circumstances where
  bench : Bench := {}
  /-- What is in the way of the coming creations. Nothing is in the way of those not listed. -/
  hindrances : List (Option Hindrance) := []
  /-- How many creations of threads engines have come to the workers and failed. -/
  abandoned : Nat := 0

/-- What is in the way of the next creation. -/
def Circumstances.hindrance? (s : Circumstances) : Option Hindrance := s.hindrances.head?.join

namespace Mechanism

variable {m : Mechanism} {p : Plan} {pairs : List Nat} {s s' : Circumstances}

/-- The backend of a mechanism in surroundings that hinder. -/
def hindered (m : Mechanism) : Backend Circumstances where
  name := m.name
  create p pairs s :=
    let r := Bench.request m p pairs s.bench
    let hindrances := s.hindrances.tail
    match s.bench.createUnder r s.hindrance? with
    | (.ok e, bench) => (.ok e, { s with bench, hindrances })
    | (.error e, bench) =>
      (.error e,
        { bench, hindrances, abandoned := s.abandoned + (r.comesToWorkers s.hindrance?).toNat })
  destroy e s := { s with bench := s.bench.destroyEngine e.id }
  bench := Circumstances.bench
  setBench b s := { s with bench := b }

theorem createUnder_eq (m : Mechanism) (p : Plan) (pairs : List Nat) (s : Circumstances) :
    s.bench.createUnder (Bench.request m p pairs s.bench) s.hindrance? =
      ((m.hindered.create p pairs s).1, (m.hindered.create p pairs s).2.bench) := by
  simp only [hindered]
  split <;> next heq => exact heq

theorem createUnder_of_hindered {result : Except BenchError EngineHandle}
    (h : m.hindered.create p pairs s = (result, s')) :
    s.bench.createUnder (Bench.request m p pairs s.bench) s.hindrance? = (result, s'.bench) := by
  rw [createUnder_eq, h]

theorem hindered_onBench (m : Mechanism) : m.hindered.OnBench where
  bench_setBench _ _ := rfl
  create {p pairs s result s'} h := by
    rw [← Bench.map_pair_request m p pairs s.bench]
    exact Bench.createUnder_cases (createUnder_of_hindered h)
  destroy _ _ := rfl

/-- Where nothing is in the way, a creation is what it always is. -/
theorem hindered_create (hnone : s.hindrance? = none) :
    m.backend.create p pairs s.bench =
      ((m.hindered.create p pairs s).1, (m.hindered.create p pairs s).2.bench) := by
  rw [m.create_backend, ← Bench.createUnder_none, ← hnone, createUnder_eq]

end Mechanism

/-! ## Steps -/

/-- Something that is done with the sockets alone. -/
inductive Errand where
  | send (pair : Nat) (data : Bytes)
  | receive (pair n : Nat)
  | reply (pair : Nat) (data : Bytes)
  | accept (pair n : Nat)
  | echo (pair : Nat) (buffer : Buffer)
  /-- All engines work until nothing waits. -/
  | settle
  | shutdown (pair : Nat) (e : SocketPair.End) (d : SocketPair.Direction)
  | setBlocking (pair : Nat)
  /-- A workload is driven until it is over. -/
  | drive (w : Workload) (pairs : List Nat) (draw : Draw) (roundTrips : Nat)
  | cancel

/-- One step of a script. -/
inductive Chore where
  | openPairs (count : Nat)
  | dropPair (pair : Nat)
  | create (m : Mechanism) (p : Plan) (pairs : List Nat)
  | createFleet (m : Mechanism) (p : Plan) (count : Nat) (pairs : List Nat)
  | destroy (m : Mechanism) (e : EngineHandle)
  | destroyFleet (m : Mechanism) (f : Fleet)
  | run (m : Mechanism) (p : Plan) (draw : Draw) (patience : Patience)
  | traffic (e : Errand)
  /-- So many more descriptors may be opened from now on. -/
  | grant (left : Option Nat)
  /-- Occupies every free number below `n`. -/
  | occupy (n : Nat)
  | vacate
  /-- Whatever else the process does with its descriptors. -/
  | setTable (table : DescriptorTable)
  /-- What the allocator will have against the coming requests. -/
  | setShortages (shortages : List (Option Failure))
  /-- What will be in the way of the coming timers. -/
  | setUnarmed (unarmed : List (Option (ArmingStep × Failure)))
  | setHindrances (hindrances : List (Option Hindrance))

/-- What becomes of a step. -/
inductive ChoreEnd where
  | done
  | refused (e : BenchError)
  | collapsed (r : RangeError)
  /-- The step may not be taken. -/
  | skipped
  deriving DecidableEq

def ChoreEnd.isFailure : ChoreEnd → Bool
  | .refused _ | .collapsed _ => true
  | .done | .skipped => false

/-- Engines are asked for on such pairs alone. -/
def Chore.isOn (listable : Nat → Bool) : Chore → Bool
  | .create _ _ pairs | .createFleet _ _ _ pairs => pairs.all listable
  | _ => true

def Bench.runErrand (b : Bench) : Errand → Bench
  | .send pair data => (b.send pair data).2
  | .receive pair n => (b.receive pair n).2
  | .reply pair data => (b.reply pair data).2
  | .accept pair n => (b.accept pair n).2
  | .echo pair buffer => (b.echo pair buffer).2.2
  | .settle => b.settle
  | .shutdown pair e d => b.updatePair pair (·.shutdown e d)
  | .setBlocking pair => b.updatePair pair .setBlocking
  | .drive w pairs draw roundTrips => (b.drive w pairs draw roundTrips).2
  | .cancel => b.cancel

namespace Circumstances

variable {s s' : Circumstances}

/-- What has been asked for is given or refused. A step that panics has come to no engine, and what
it has done before is left out. -/
def concluded {α : Type} (s : Circumstances) :
    Except RangeError (Except BenchError α × Circumstances) → ChoreEnd × Circumstances
  | .ok (.ok _, s) => (.done, s)
  | .ok (.error e, s) => (.refused e, s)
  | .error r => (.collapsed r, s)

def perform (s : Circumstances) : Chore → ChoreEnd × Circumstances
  | .openPairs count =>
    let (result, bench) := s.bench.openPairs count
    s.concluded (.ok (result, { s with bench }))
  | .dropPair pair => (.done, { s with bench := s.bench.dropPair pair })
  | .create m p pairs => s.concluded (.ok (m.hindered.create p pairs s))
  | .createFleet m p count pairs => s.concluded (Fleet.create m.hindered p count pairs s)
  | .destroy m e => (.done, m.hindered.destroy e s)
  | .destroyFleet m f => (.done, f.destroy m.hindered s)
  | .run m p draw patience => s.concluded (m.hindered.run p draw patience s)
  | .traffic e => (.done, { s with bench := s.bench.runErrand e })
  | .grant left =>
    (.done, { s with bench := { s.bench with table := { s.bench.table with budget := left } } })
  | .occupy n => (.done, { s with bench := { s.bench with table := s.bench.table.fill n } })
  | .vacate => (.done, { s with bench := { s.bench with table := s.bench.table.unfill } })
  | .setTable table => (.done, { s with bench := { s.bench with table } })
  | .setShortages shortages => (.done, { s with bench := { s.bench with shortages } })
  | .setUnarmed unarmed => (.done, { s with bench := { s.bench with unarmed } })
  | .setHindrances hindrances => (.done, { s with hindrances })

/-- Which steps may be taken. -/
abbrev Rule := Bench → Chore → Bool

def step (rule : Rule) (s : Circumstances) (x : Chore) : ChoreEnd × Circumstances :=
  if rule s.bench x then s.perform x else (.skipped, s)

/-- The state after a script. -/
def run (rule : Rule) (s : Circumstances) (script : List Chore) : Circumstances :=
  script.foldl (fun s x => (s.step rule x).2) s

/-- A step that has not panicked has failed only if what it asked for was refused. -/
theorem concluded_cases {α : Type} {ending : ChoreEnd}
    {asked : Except RangeError (Except BenchError α × Circumstances)}
    (h : s.concluded asked = (ending, s')) :
    (∃ r, asked = .error r) ∧ s' = s ∨
      ∃ result, asked = .ok (result, s') ∧ (ending.isFailure = true → ∃ e, result = .error e) := by
  match asked, h with
  | .ok (.ok a, _), rfl => exact Or.inr ⟨.ok a, rfl, nofun⟩
  | .ok (.error e, _), rfl => exact Or.inr ⟨.error e, rfl, fun _ => ⟨e, rfl⟩⟩
  | .error r, rfl => exact Or.inl ⟨⟨r, rfl⟩, rfl⟩

theorem concluded_ok {α : Type} (s : Circumstances) (asked : Except BenchError α × Circumstances) :
    (s.concluded (.ok asked)).2 = asked.2 := by
  obtain ⟨result, t⟩ := asked
  cases result <;> rfl

theorem run_concat (rule : Rule) (s : Circumstances) (script : List Chore) (x : Chore) :
    s.run rule (script ++ [x]) = ((s.run rule script).step rule x).2 := List.foldl_append

/-- What every step that may be taken keeps holds after every script. -/
theorem run_keeps {rule : Rule} {I : Circumstances → Prop}
    (hperform : ∀ s x, I s → rule s.bench x = true → I (s.perform x).2) (h : I s)
    (script : List Chore) : I (s.run rule script) := by
  unfold run
  induction script generalizing s with
  | nil => exact h
  | cons x rest ih =>
    refine ih ?_
    dsimp only [step]
    split
    · next hallowed => exact hperform s x h hallowed
    · exact h

end Circumstances

theorem Bench.SameBooks.errand (b : Bench) (e : Errand) : SameBooks b (b.runErrand e) := by
  cases e with
  | send pair data => exact send b pair data
  | receive pair n => exact receive b pair n
  | reply pair data => exact reply b pair data
  | accept pair n => exact accept b pair n
  | echo pair buffer => exact echo b pair buffer
  | settle => exact settle b
  | shutdown pair e d => exact updatePair b pair _
  | setBlocking pair => exact updatePair b pair _
  | drive w pairs draw roundTrips => exact keptByCalls.drive b w pairs draw roundTrips
  | cancel => exact cancel b

end ReadinessBench

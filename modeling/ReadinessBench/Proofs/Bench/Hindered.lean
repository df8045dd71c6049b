import ReadinessBench.Proofs.Bench.Tenancy

/-!
# Surroundings that hinder

The steps of a creation fail for reasons that a bench can tell: a number, a budget, a request that
the allocator refuses. The rest of the system can fail them as well. No thread can be started, a
registration is not taken, a descriptor cannot be made to wait. A hindrance says how far a creation
comes, and with which error it ends there.
-/

namespace ReadinessBench

/-- Why and where a creation is broken off, if nothing else ends it before. -/
structure Hindrance where
  /-- So many steps are performed before. -/
  steps : Nat
  /-- So many pairs are served before, if the step that fails goes from pair to pair. -/
  served : Nat
  context : String
  failure : Failure
  deriving DecidableEq

def Hindrance.error (h : Hindrance) : BenchError := .resource h.context h.failure

/-- Whether anything can fail in a step after so many of the pairs have been served. Checks ask the
system for nothing. Before the first pair is made to wait, the handler of interruptions is
installed. -/
def SetupStep.isExposed (pairs served : Nat) : SetupStep → Bool
  | .checkExclusive | .checkSelectable | .checkLastSelectable => false
  | .blockReads => served = 0 || served < pairs
  | .workers | .register _ => served < pairs
  | .buffer | .descriptor _ | .slots => true

/-- Whether there is anything left to fail where the hindrance lies in wait. The worker of an
engine with a stop descriptor is started after all steps, threads engines have started theirs. -/
def Hindrance.strikes (h : Hindrance) (r : EngineRequest) : Bool :=
  match r.mechanism.setup[h.steps]? with
  | some step => step.isExposed r.watched.length h.served
  | none => r.mechanism ≠ .threads

namespace EngineRequest

/-- The request, as far as its first pairs go. -/
def firstOnly (r : EngineRequest) (n : Nat) : EngineRequest :=
  { r with watched := r.watched.take n }

/-- What becomes of the step that is hindered, or of the start of the worker behind the last one.
A worker gets its buffer before its thread, and what has been started is stopped again. -/
def performHindered (r : EngineRequest) (h : Hindrance) (b : Bench) :
    Option SetupStep → BenchError × Bench
  | some .blockReads => (h.error, ((r.firstOnly h.served).perform [] b .blockReads).2)
  | some .workers =>
    match (r.firstOnly (h.served + 1)).perform [] b .workers with
    | (.error e, b) => (e, b)
    | (.ok _, b) => (h.error, b.record (.workersStopped r.mechanism.name))
  | _ => (h.error, b)

/-- The creation as far as the hindrance. -/
def breakOff (r : EngineRequest) (h : Hindrance) (b : Bench) : BenchError × Bench :=
  match r.performAll [] b (r.mechanism.setup.take h.steps) with
  | (.error e, b) => (e, b)
  | (.ok opened, b) =>
    let (e, b) := r.performHindered h b r.mechanism.setup[h.steps]?
    (e, b.close opened)

end EngineRequest

/-- A threads engine is asked for, and the creation comes to its workers. -/
def EngineRequest.comesToWorkers (r : EngineRequest) (h : Option Hindrance) : Bool :=
  r.mechanism = .threads && !r.exclusive &&
    match h.filter (·.strikes r) with
    | some h => 2 ≤ h.steps
    | none => true

namespace Bench

/-- The creation of an engine in surroundings that hinder it, or do not. -/
def createUnder (b : Bench) (r : EngineRequest) (h : Option Hindrance) :
    Except BenchError EngineHandle × Bench :=
  match h.filter (·.strikes r) with
  | some h =>
    let (e, b) := r.breakOff h b
    (.error e, b)
  | none => b.createEngine r

theorem createUnder_none (b : Bench) (r : EngineRequest) :
    b.createUnder r none = b.createEngine r := rfl

theorem openOne_eq {b b' : Bench} {n : Nat} (h : b.openOne = .ok (n, b')) :
    ∃ table, b.table.openOne = .ok (n, table) ∧ b' = { b with table } := by
  unfold openOne at h
  cases hopen : b.table.openOne with
  | error f =>
    rw [hopen] at h
    cases h
  | ok given =>
    rw [hopen] at h
    cases h
    exact ⟨_, rfl, rfl⟩

/-- What is left of a request for memory is that it has been answered. -/
theorem allocate_snd (b : Bench) (size : Nat) :
    (b.allocate size).2 = { b with shortages := b.shortages.tail } := by
  unfold Bench.allocate
  split
  · next hnone => rw [hnone, List.tail_nil, ← hnone]
  · next hsome => rw [hsome, List.tail_cons]

end Bench

namespace EngineRequest

variable {r : EngineRequest} {opened owned : List Nat} {b b' : Bench} {e : BenchError}
  {steps : List SetupStep}

/-- One of the first steps has failed, and all before it have gone through. -/
theorem performAll_failed {k : Nat} (h : r.performAll opened b (steps.take k) = (.error e, b')) :
    ∃ i step owned next failed, i < k ∧ steps[i]? = some step ∧
      r.performAll opened b (steps.take i) = (.ok owned, next) ∧
      r.perform owned next step = (.error e, failed) ∧ b' = failed.close owned := by
  induction steps generalizing opened b k with
  | nil =>
    rw [List.take_nil] at h
    cases h
  | cons first rest ih =>
    cases k with
    | zero => cases h
    | succ k =>
      rw [List.take_succ_cons, performAll] at h
      cases hfirst : r.perform opened b first with
      | mk result next =>
        rw [hfirst] at h
        cases result with
        | error e' =>
          cases h
          exact ⟨0, first, opened, b, next, Nat.succ_pos k, rfl, rfl, hfirst, rfl⟩
        | ok fresh =>
          obtain ⟨i, step, owned, before, failed, hik, hi, hbefore, hrest⟩ := ih h
          refine ⟨i + 1, step, owned, before, failed, Nat.succ_lt_succ hik, hi, ?_, hrest⟩
          rw [List.take_succ_cons, performAll, hfirst]
          exact hbefore

/-- A request that has been let through does not wish for what cannot be granted. -/
theorem exclusive_of_checked (hm : r.mechanism.wakesOne = false)
    (h : r.perform opened b .checkExclusive = (.ok owned, b')) : r.exclusive = false := by
  rw [perform, hm, Bool.not_false, Bool.and_true] at h
  split at h
  · cases h
  · next hplain => exact Bool.eq_false_iff.mpr hplain

/-- A threads engine can be hindered where it makes reads wait, and where it starts its workers. -/
theorem steps_of_strikes {h : Hindrance} (hm : r.mechanism = .threads)
    (hstrikes : h.strikes r = true) : h.steps = 1 ∨ h.steps = 2 := by
  rw [Hindrance.strikes, hm] at hstrikes
  rcases hsteps : h.steps with _ | _ | _ | k
  · simp [hsteps, Mechanism.setup, SetupStep.isExposed] at hstrikes
  · exact Or.inl rfl
  · exact Or.inr rfl
  · simp [hsteps, Mechanism.setup] at hstrikes

/-- A step that is hindered opens nothing, and changes no book. -/
theorem performHindered_same (r : EngineRequest) (h : Hindrance) (b : Bench)
    (step : Option SetupStep) : Bench.SameBooks b (r.performHindered h b step).2 := by
  have hgroup {result : Except BenchError (List Nat)} {next : Bench}
      (hworkers : (r.firstOnly (h.served + 1)).perform [] b .workers = (result, next)) :
      Bench.SameBooks b next := by
    rcases Bench.perform_cases hworkers with ⟨n, -, -, hone⟩ | ⟨hsame, -⟩
    · cases hone
    · exact hsame
  unfold performHindered
  split
  · exact Bench.updateAll_same _ _
  · split
    · next hworkers => exact hgroup hworkers
    · next hworkers => exact (hgroup hworkers).trans (Bench.SameBooks.record _ _)
  · exact Bench.SameBooks.refl b

/-- A creation that is broken off leaves nothing open. -/
theorem acquired_breakOff (r : EngineRequest) (h : Hindrance) (b : Bench) :
    Bench.Acquired b (r.breakOff h b).2 [] := by
  unfold breakOff
  cases hsteps : r.performAll [] b (r.mechanism.setup.take h.steps) with
  | mk result next =>
    rcases Bench.performAll_cases (.of_sameBooks (.refl b)) hsteps with
      ⟨owned, rfl, hacquired, -⟩ | ⟨e, rfl, hacquired⟩
    · have hhindered := hacquired.trans
        (.of_sameBooks (r.performHindered_same h next r.mechanism.setup[h.steps]?))
      rw [List.append_nil] at hhindered
      exact hhindered.close
    · exact hacquired

end EngineRequest

namespace Bench

variable {r : EngineRequest} {b b' : Bench} {e : BenchError}

theorem performAll_of_createEngine (h : b.createEngine r = (.error e, b')) :
    r.performAll [] b r.mechanism.setup = (.error e, b') := by
  unfold createEngine at h
  split at h
  · next hsteps =>
    cases h
    exact hsteps
  · cases h

/-- Nothing comes of a creation that is hindered. -/
theorem createEngine_of_createUnder {h : Option Hindrance} {engine : EngineHandle}
    (hcreate : b.createUnder r h = (.ok engine, b')) : b.createEngine r = (.ok engine, b') := by
  unfold createUnder at hcreate
  split at hcreate
  · cases hcreate
  · exact hcreate

theorem createUnder_cases {h : Option Hindrance} {result : Except BenchError EngineHandle}
    (hcreate : b.createUnder r h = (result, b')) :
    Created (r.watched.map Watched.pair) b b' result := by
  unfold createUnder at hcreate
  split at hcreate
  · cases hcreate
    exact .failed (r.acquired_breakOff _ b)
  · exact createEngine_cases hcreate

end Bench

end ReadinessBench

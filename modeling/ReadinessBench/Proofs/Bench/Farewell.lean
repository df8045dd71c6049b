import ReadinessBench.Proofs.Bench.Hindered
import ReadinessBench.Proofs.Bench.Quiet
import ReadinessBench.Proofs.Bench.Unbroken

/-!
# What engines say

An engine that has been created says that it has started, and one that is destroyed says that it
has stopped. A creation that fails says nothing, unless it is that of a threads engine and has come
to the workers. The group that is taken down then says that it has stopped.
-/

namespace ReadinessBench

/-! ## What a creation writes -/

/-- What is written when a step fails: a group of workers is stopped again. -/
def SetupStep.farewell (engine : String) : SetupStep → List Event
  | .workers => [.workersStopped engine]
  | _ => []

theorem Mechanism.eq_threads_of_setup {m : Mechanism} (h : .workers ∈ m.setup) : m = .threads := by
  revert h
  cases m <;> decide

namespace Bench

theorem journal_allocate (b : Bench) (size : Nat) : (b.allocate size).2.journal = b.journal := by
  rw [allocate_snd]

theorem journal_allocateEach (b : Bench) (size n : Nat) :
    (b.allocateEach size n).2.journal = b.journal := by
  induction n generalizing b with
  | zero => rfl
  | succ n ih =>
    have hfirst := journal_allocate b size
    rw [allocateEach]
    split
    · next hasked =>
      rw [hasked] at hfirst
      rw [ih, hfirst]
    · exact hfirst

end Bench

namespace EngineRequest

theorem journal_granted (context : String) {asked : Option Failure × Bench} {b : Bench}
    (h : asked.2.journal = b.journal) : (granted context asked).2.journal = b.journal := by
  obtain ⟨_ | f, next⟩ := asked <;> exact h

variable {r : EngineRequest} {opened owned : List Nat} {b b' : Bench} {e : BenchError}
  {step : SetupStep} {steps : List SetupStep}

/-- A step writes nothing, unless workers have to be stopped again. -/
theorem journal_perform {result : Except BenchError (List Nat)}
    (h : r.perform opened b step = (result, b')) :
    b'.journal.toList = b.journal.toList ++
      match result with
      | .ok _ => []
      | .error _ => step.farewell r.mechanism.name := by
  -- most steps say nothing when they fail either
  have hsilent (hjournal : b'.journal = b.journal) (hstep : step.farewell r.mechanism.name = []) :
      b'.journal.toList = b.journal.toList ++
        match result with
        | .ok _ => []
        | .error _ => step.farewell r.mechanism.name := by
    rw [hjournal, hstep]
    cases result <;> exact (List.append_nil _).symm
  cases step with
  | checkExclusive =>
    rw [perform] at h
    split at h <;> cases h <;> exact hsilent rfl rfl
  | blockReads =>
    cases h
    have hjournal : ∀ (b : Bench) (w : Watched),
        (b.updatePair w.pair .setBlocking).journal = b.journal := fun _ _ => rfl
    exact hsilent (foldl_keeps Bench.journal hjournal b r.watched) rfl
  | checkSelectable =>
    rw [perform, Prod.mk.injEq] at h
    exact hsilent (congrArg Bench.journal h.2.symm) rfl
  | buffer =>
    have hjournal := journal_granted Buffer.context (b.journal_allocate r.messageSize)
    rw [perform] at h
    rw [h] at hjournal
    exact hsilent hjournal rfl
  | workers =>
    have hjournal := journal_granted Buffer.context
      (b.journal_allocateEach r.messageSize r.watched.length)
    rw [perform] at h
    split at h <;> rename_i hasked <;> rw [hasked] at hjournal <;> cases h
    · rw [hjournal, List.append_nil]
    · rw [← hjournal]
      exact Array.toList_push
  | descriptor context =>
    rw [perform] at h
    split at h
    · next hopen =>
      cases h
      obtain ⟨table, -, rfl⟩ := Bench.openOne_eq hopen
      exact hsilent rfl rfl
    · cases h
      exact hsilent rfl rfl
  | slots =>
    have hjournal := journal_granted slotsContext
      (b.journal_allocate (bytesPerSlot * (r.watched.length + 1)))
    rw [perform] at h
    rw [h] at hjournal
    exact hsilent hjournal rfl
  | register context =>
    rw [perform] at h
    split at h <;> cases h <;> exact hsilent rfl rfl
  | checkLastSelectable =>
    rw [perform, Prod.mk.injEq] at h
    exact hsilent (congrArg Bench.journal h.2.symm) rfl

theorem journal_performAll (h : r.performAll opened b steps = (.ok owned, b')) :
    b'.journal.toList = b.journal.toList := by
  induction steps generalizing opened b with
  | nil =>
    cases h
    rfl
  | cons first rest ih =>
    obtain ⟨fresh, next, hfirst, hrest⟩ := performAll_cons_ok h
    rw [ih hrest, journal_perform hfirst, List.append_nil]

/-- Of all the steps that fail, only those of threads engines that come to their workers have
something to say. -/
theorem farewell_of_failed {i : Nat} {next failed : Bench}
    (hi : r.mechanism.setup[i]? = some step)
    (hbefore : r.performAll [] b (r.mechanism.setup.take i) = (.ok owned, next))
    (hfailed : r.perform owned next step = (.error e, failed)) :
    step.farewell r.mechanism.name =
      if r.mechanism = .threads ∧ r.exclusive = false then [.workersStopped "threads"] else [] := by
  by_cases hm : r.mechanism = .threads
  · rw [hm] at hi hbefore
    rcases i with _ | _ | _ | i <;> cases hi
    -- the check refuses a request that is to be exclusive
    · rw [perform] at hfailed
      split at hfailed
      · next hrefused =>
        have hexclusive : r.exclusive = true := (Bool.and_eq_true_iff.mp hrefused).1
        rw [if_neg fun h => Bool.false_ne_true (h.2.symm.trans hexclusive)]
        rfl
      · cases hfailed
    · cases hfailed
    · obtain ⟨_, _, hchecked, -⟩ := performAll_cons_ok hbefore
      rw [if_pos ⟨hm, exclusive_of_checked (by rw [hm]; rfl) hchecked⟩, hm]
      rfl
  · rw [if_neg fun h => hm h.1]
    have hnone : step ≠ .workers := by
      rintro rfl
      exact hm (Mechanism.eq_threads_of_setup (List.mem_of_getElem? hi))
    cases step <;> first | rfl | exact absurd rfl hnone

theorem journal_performAll_failed {k : Nat}
    (h : r.performAll [] b (r.mechanism.setup.take k) = (.error e, b')) :
    b'.journal.toList = b.journal.toList ++
      if r.mechanism = .threads ∧ r.exclusive = false then [.workersStopped "threads"] else [] := by
  obtain ⟨i, step, owned, next, failed, -, hi, hbefore, hfailed, rfl⟩ := performAll_failed h
  rw [← farewell_of_failed hi hbefore hfailed, ← journal_performAll hbefore]
  exact journal_perform hfailed

/-- What is written of a step that is hindered. -/
theorem journal_performHindered (r : EngineRequest) (h : Hindrance) (b : Bench)
    (step : Option SetupStep) :
    (r.performHindered h b step).2.journal.toList = b.journal.toList ++
      if step = some .workers then [.workersStopped r.mechanism.name] else [] := by
  unfold performHindered
  split
  · have hsome : (r.firstOnly h.served).perform [] b .blockReads = (.ok [], _) := rfl
    rw [if_neg nofun]
    exact journal_perform hsome
  · rw [if_pos rfl]
    split
    · next hworkers => exact journal_perform hworkers
    · next hworkers =>
      have hjournal := journal_perform hworkers
      rw [List.append_nil] at hjournal
      rw [← hjournal]
      exact Array.toList_push
  · next hother =>
    rw [if_neg hother, List.append_nil]

theorem journal_breakOff {h : Hindrance} (hstrikes : h.strikes r = true) (b : Bench) :
    (r.breakOff h b).2.journal.toList = b.journal.toList ++
      if r.comesToWorkers (some h) then [.workersStopped "threads"] else [] := by
  have hcomes : r.comesToWorkers (some h) = true ↔
      r.mechanism = .threads ∧ r.exclusive = false ∧ 2 ≤ h.steps := by
    simp [comesToWorkers, Option.filter_some, hstrikes, and_assoc]
  simp only [hcomes]
  unfold breakOff
  cases hsteps : r.performAll [] b (r.mechanism.setup.take h.steps) with
  | mk result next =>
    cases result with
    | error e =>
      -- the check has failed, since nothing else has come before the hindrance
      have hnot : ¬ (r.mechanism = .threads ∧ r.exclusive = false) := by
        rintro ⟨hm, hplain⟩
        rw [hm] at hsteps
        rcases steps_of_strikes hm hstrikes with hone | htwo
        · simp [hone, Mechanism.setup, performAll, perform, hplain] at hsteps
        · simp [htwo, Mechanism.setup, performAll, perform, hplain] at hsteps
      have hjournal := journal_performAll_failed hsteps
      rw [if_neg hnot] at hjournal
      rw [if_neg fun h => hnot ⟨h.1, h.2.1⟩]
      exact hjournal
    | ok owned =>
      have hjournal := r.journal_performHindered h next r.mechanism.setup[h.steps]?
      rw [journal_performAll hsteps] at hjournal
      refine hjournal.trans (congrArg _ ?_)
      by_cases hm : r.mechanism = .threads
      · rw [hm] at hsteps ⊢
        rcases steps_of_strikes hm hstrikes with hone | htwo
        · simp [hone, Mechanism.setup]
        · rw [htwo] at hsteps
          obtain ⟨_, _, hchecked, -⟩ := performAll_cons_ok hsteps
          have hplain := exclusive_of_checked (by rw [hm]; rfl) hchecked
          simp [htwo, hplain, Mechanism.setup, Mechanism.name]
      · have hnone : r.mechanism.setup[h.steps]? ≠ some .workers := fun hworkers =>
          hm (Mechanism.eq_threads_of_setup (List.mem_of_getElem? hworkers))
        rw [if_neg hnone, if_neg fun h => hm h.1]

end EngineRequest

namespace Bench

variable {r : EngineRequest} {b b' : Bench}

/-- What a creation that fails has changed, as far as anybody can tell afterwards. -/
theorem createUnder_failed {h : Option Hindrance} {e : BenchError}
    (hcreate : b.createUnder r h = (.error e, b')) :
    Acquired b b' [] ∧ b'.journal.toList = b.journal.toList ++
      if r.comesToWorkers h then [.workersStopped "threads"] else [] := by
  unfold createUnder at hcreate
  cases hstrikes : h.filter (·.strikes r) with
  | some hindrance =>
    obtain ⟨rfl, hhit⟩ := Option.filter_eq_some_iff.mp hstrikes
    simp only [hstrikes, Prod.mk.injEq] at hcreate
    rw [← hcreate.2]
    exact ⟨r.acquired_breakOff hindrance b, EngineRequest.journal_breakOff hhit b⟩
  | none =>
    -- nothing is in the way, and the creation has failed among all of its steps
    rw [hstrikes] at hcreate
    have hsteps := performAll_of_createEngine hcreate
    rw [← List.take_length (l := r.mechanism.setup)] at hsteps
    have hjournal := EngineRequest.journal_performAll_failed hsteps
    cases createEngine_cases hcreate with
    | failed hacquired =>
      refine ⟨hacquired, hjournal.trans ?_⟩
      simp [EngineRequest.comesToWorkers, hstrikes]

/-- An engine that has been created is at work, and has said that it has started. -/
theorem createEngine_started {engine : EngineHandle} (h : b.createEngine r = (.ok engine, b')) :
    ∃ w : Watcher, w.mechanism = r.mechanism ∧
      b'.tenants = b.tenants ++ [w.tenant b.nextWatcher] ∧ b'.nextWatcher = b.nextWatcher + 1 ∧
      b'.journal.toList = b.journal.toList ++ [w.startEvent] := by
  unfold createEngine at h
  cases hsteps : r.performAll [] b r.mechanism.setup with
  | mk result next =>
    rw [hsteps] at h
    rcases performAll_cases (.of_sameBooks (.refl b)) hsteps with
      ⟨owned, rfl, hacquired, -⟩ | ⟨e, rfl, -⟩
    · have hjournal := EngineRequest.journal_performAll hsteps
      have htenants : next.tenants = b.tenants := hacquired.books.tenants
      have hnext : next.nextWatcher = b.nextWatcher := hacquired.books.nextWatcher
      simp only [shareWatched_eq] at h
      cases h
      let seat : Watcher := {
        mechanism := r.mechanism
        watched := r.watched
        buffer := .zeroed r.messageSize
        owned }
      let ring := Ring.watching (interestMask r.exclusive) r.watched seat.stopNumber
      refine ⟨{ seat with ring }, rfl, ?_, congrArg (· + 1) hnext, ?_⟩
      · show (next.watchers ++ [_]).map _ = _
        rw [List.map_append, ← htenants, ← hnext]
        rfl
      · rw [← hjournal]
        exact Array.toList_push
    · cases h

/-- An engine at work that is destroyed says that it has stopped. -/
theorem destroyEngine_stopped (b : Bench) (id : Nat) :
    b.destroyEngine id = b ∨ ∃ w : Watcher, w.tenant id ∈ b.tenants ∧
      (b.destroyEngine id).tenants = b.tenants.filter (·.id != id) ∧
      (b.destroyEngine id).nextWatcher = b.nextWatcher ∧
      (b.destroyEngine id).journal.toList = b.journal.toList ++ [w.stopEvent] := by
  cases hlookup : b.watchers.lookup id with
  | none =>
    left
    simp only [destroyEngine, hlookup]
  | some w =>
    right
    obtain ⟨before, after, hwatchers, -⟩ := List.lookup_eq_some_iff.mp hlookup
    refine ⟨w, ?_, b.tenants_destroyEngine id, ?_, ?_⟩
    · rw [tenants, hwatchers]
      exact List.mem_map.mpr ⟨(id, w), by simp, rfl⟩
    · simp only [destroyEngine, hlookup]
      rw [← List.foldl_map]
      exact (SharesOnly.unshareAll _ _).nextWatcher
    · simp only [destroyEngine, hlookup]
      rw [← List.foldl_map]
      have hjournal (closed : Bench) (pairs : List Nat) :
          (pairs.foldl unshare closed).journal = closed.journal :=
        foldl_keeps Bench.journal journal_unshare closed pairs
      exact Array.toList_push.trans (congrArg (·.toList ++ _) (hjournal _ _))

end Bench

end ReadinessBench

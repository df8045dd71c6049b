import ReadinessBench.Proofs.Bench.Capacity
import ReadinessBench.Proofs.Bench.Hindered
import ReadinessBench.Proofs.Bench.Unbroken

/-!
# What a refused configuration has cost

An error of the configuration is to say that nothing has been created. What a creation takes hold
of is followed step by step, in any surroundings. All checks but one come before the first thing is
taken; the one that looks at the number of a stop descriptor has to wait until it is open. Main
statement: `refused_create`.
-/

namespace ReadinessBench

/-- Something that the creation of an engine takes hold of, or changes. -/
inductive Acquisition where
  | memory (size : Nat)
  | descriptor (number : Nat)
  | worker
  /-- Reads at the engines' end of the pair wait from now on. -/
  | waiting (pair : Nat)
  deriving DecidableEq, Repr

def Acquisition.number? : Acquisition → Option Nat
  | descriptor number => some number
  | memory _ | worker | waiting _ => none

namespace Bench

def memoryTaken (b : Bench) (size : Nat) : List Acquisition :=
  match (b.allocate size).1 with
  | none => [.memory size]
  | some _ => []

/-- How many of so many equal requests for memory are granted before one is refused. -/
def grantedOf (b : Bench) (size : Nat) : Nat → Nat
  | 0 => 0
  | n + 1 =>
    match b.allocate size with
    | (none, b) => b.grantedOf size n + 1
    | (some _, _) => 0

theorem openOne_of_table {b : Bench} {n : Nat} {table : DescriptorTable}
    (h : b.table.openOne = .ok (n, table)) : b.openOne = .ok (n, { b with table }) := by
  rw [openOne, h]
  rfl

theorem grantedOf_eq_iff {b : Bench} {size n : Nat} :
    b.grantedOf size n = n ↔ (b.allocateEach size n).1 = none := by
  induction n generalizing b with
  | zero => exact iff_of_true rfl rfl
  | succ n ih =>
    rw [grantedOf, allocateEach]
    cases hasked : b.allocate size with
    | mk refused next =>
      cases refused with
      | none => rw [Nat.add_right_cancel_iff, ih]
      | some f => exact iff_of_false (Nat.zero_ne_add_one n) (Option.some_ne_none f)

end Bench

namespace EngineRequest

/-- What a step takes, as far as it comes. -/
def taken (r : EngineRequest) (b : Bench) : SetupStep → List Acquisition
  | .checkExclusive | .checkSelectable | .checkLastSelectable | .register _ => []
  | .blockReads => r.watched.map fun w => .waiting w.pair
  | .buffer => b.memoryTaken r.messageSize
  | .workers =>
    (List.replicate (b.grantedOf r.messageSize r.watched.length)
      [.memory r.messageSize, .worker]).flatten
  | .descriptor _ =>
    match b.openOne with
    | .ok (n, _) => [.descriptor n]
    | .error _ => []
  | .slots => b.memoryTaken (bytesPerSlot * (r.watched.length + 1))

def takenInAll (r : EngineRequest) (opened : List Nat) (b : Bench) :
    List SetupStep → List Acquisition
  | [] => []
  | step :: rest =>
    r.taken b step ++
      match r.perform opened b step with
      | (.ok fresh, b) => r.takenInAll (opened ++ fresh) b rest
      | (.error _, _) => []

/-- What a step takes before it is broken off. The worker that cannot be started may have got its
buffer. -/
def takenHindered (r : EngineRequest) (h : Hindrance) (b : Bench) :
    Option SetupStep → List Acquisition
  | some .blockReads => (r.firstOnly h.served).taken b .blockReads
  | some .workers =>
    (r.firstOnly h.served).taken b .workers ++
      if b.grantedOf r.messageSize (h.served + 1) = h.served + 1 then [.memory r.messageSize]
      else []
  | _ => []

end EngineRequest

/-- All that a creation takes, one after the other, whatever becomes of it. -/
def Bench.takings (b : Bench) (r : EngineRequest) (h : Option Hindrance) : List Acquisition :=
  match h.filter (·.strikes r) with
  | some h =>
    let before := r.mechanism.setup.take h.steps
    r.takenInAll [] b before ++
      match r.performAll [] b before with
      | (.ok _, b) => r.takenHindered h b r.mechanism.setup[h.steps]?
      | (.error _, _) => []
  | none =>
    r.takenInAll [] b r.mechanism.setup ++
      match r.performAll [] b r.mechanism.setup with
      | (.ok _, _) => if r.mechanism = .threads then [] else [.worker]
      | (.error _, _) => []

/-- The number that a select engine gets for its stop descriptor lies beyond the reach of
descriptor sets, though those of its pairs do not. -/
structure EngineRequest.StopBeyond (r : EngineRequest) (b : Bench) (n : Nat) : Prop where
  mechanism : r.mechanism = .select
  exclusive : r.exclusive = false
  ends : ∀ w ∈ r.watched, w.number < selectCapacity
  memory : (b.allocate r.messageSize).1 = none
  opened : ∃ table, b.table.openOne = .ok (n, table)
  beyond : selectCapacity ≤ n

/-! ## Steps that refuse -/

/-- What looks at the request and at numbers and takes nothing. -/
def SetupStep.isCheck : SetupStep → Bool
  | .checkExclusive | .checkSelectable | .checkLastSelectable => true
  | _ => false

/-- All mechanisms check first what they can. Select alone has more to check. -/
theorem Mechanism.check_of_setup {m : Mechanism} {i : Nat} {step : SetupStep}
    (hi : m.setup[i]? = some step) (hcheck : step.isCheck = true) :
    i = 0 ∧ step = .checkExclusive ∨ m = .select ∧
      (i = 1 ∧ step = .checkSelectable ∨ i = 4 ∧ step = .checkLastSelectable) := by
  -- no list of steps has more than five
  rcases i with _ | _ | _ | _ | _ | i <;> cases m <;> cases hi <;>
    first | exact absurd hcheck Bool.false_ne_true | simp

namespace EngineRequest

variable {r : EngineRequest} {opened owned : List Nat} {b b' : Bench} {e : BenchError}
  {step : SetupStep} {steps : List SetupStep}

/-- Only checks refuse the configuration, and they leave everything as it is. -/
theorem perform_configuration (h : r.perform opened b step = (.error e, b'))
    (hclass : e.classOf = .configuration) : step.isCheck = true ∧ b' = b := by
  -- what the allocator refuses is no fault of the configuration
  have hresource {context : String} {asked : Option Failure × Bench} {next : Bench}
      (hasked : granted context asked = (.error e, next)) : False := by
    obtain ⟨_ | f, next⟩ := asked <;> cases hasked
    cases hclass
  cases step with
  | checkExclusive =>
    rw [perform] at h
    split at h <;> cases h
    exact ⟨rfl, rfl⟩
  | blockReads => cases h
  | checkSelectable =>
    rw [perform, Prod.mk.injEq] at h
    exact ⟨rfl, h.2.symm⟩
  | buffer => exact (hresource h).elim
  | workers =>
    rw [perform] at h
    split at h
    · cases h
    · next hasked =>
      cases h
      exact (hresource hasked).elim
  | descriptor context =>
    rw [perform] at h
    split at h <;> cases h
    cases hclass
  | slots => exact (hresource h).elim
  | register context =>
    rw [perform] at h
    split at h <;> cases h
    cases hclass
  | checkLastSelectable =>
    rw [perform, Prod.mk.injEq] at h
    exact ⟨rfl, h.2.symm⟩

theorem taken_of_isCheck (hcheck : step.isCheck = true) : r.taken b step = [] := by
  cases step <;> first | rfl | cases hcheck

/-- Steps that open no descriptor take none. -/
theorem numbers_taken (h : step.descriptors = 0) :
    (r.taken b step).filterMap Acquisition.number? = [] := by
  have hmemory (size : Nat) : (b.memoryTaken size).filterMap Acquisition.number? = [] := by
    unfold Bench.memoryTaken
    split <;> rfl
  cases step with
  | descriptor context => cases h
  | buffer => exact hmemory _
  | slots => exact hmemory _
  | blockReads =>
    rw [taken, List.filterMap_eq_nil_iff]
    intro a ha
    obtain ⟨w, -, rfl⟩ := List.mem_map.mp ha
    rfl
  | workers =>
    rw [taken, List.filterMap_eq_nil_iff]
    intro a ha
    obtain ⟨l, hl, hmem⟩ := List.mem_flatten.mp ha
    rw [List.eq_of_mem_replicate hl] at hmem
    rcases List.mem_pair.mp hmem with rfl | rfl <;> rfl
  | _ => rfl

/-- A step that goes through opens the descriptors that it takes. -/
theorem numbers_taken_of_ok {fresh : List Nat} (h : r.perform opened b step = (.ok fresh, b')) :
    (r.taken b step).filterMap Acquisition.number? = fresh := by
  rcases Bench.perform_cases h with ⟨n, hopen, hfresh, hone⟩ | ⟨-, ⟨hfresh, hnone⟩ | ⟨e, he⟩⟩
  · cases step <;> cases hone
    cases hfresh
    simp only [taken, hopen]
    rfl
  · cases hfresh
    exact numbers_taken hnone
  · cases he

theorem takenInAll_cons {fresh : List Nat} (h : r.perform opened b step = (.ok fresh, b')) :
    r.takenInAll opened b (step :: steps) =
      r.taken b step ++ r.takenInAll (opened ++ fresh) b' steps := by
  rw [takenInAll, h]

/-- Up to a step that fails, everything has been taken. -/
theorem takenInAll_failed {i k : Nat} {next failed : Bench} (hik : i < k)
    (hi : steps[i]? = some step)
    (hbefore : r.performAll opened b (steps.take i) = (.ok owned, next))
    (hfailed : r.perform owned next step = (.error e, failed)) :
    r.takenInAll opened b (steps.take k) =
      r.takenInAll opened b (steps.take i) ++ r.taken next step := by
  induction i generalizing steps opened b k with
  | zero =>
    obtain ⟨k, rfl⟩ := Nat.exists_eq_add_one.mpr hik
    cases steps <;> cases hi
    cases hbefore
    simp only [takenInAll, hfailed, List.take_succ_cons, List.take_zero, List.append_nil,
      List.nil_append]
  | succ i ih =>
    obtain ⟨k, rfl⟩ := Nat.exists_eq_add_one.mpr (Nat.zero_lt_of_lt hik)
    cases steps with
    | nil => cases hi
    | cons first rest =>
      rw [List.take_succ_cons] at hbefore ⊢
      obtain ⟨fresh, after, hfirst, hrest⟩ := performAll_cons_ok hbefore
      rw [List.take_succ_cons, takenInAll_cons hfirst, takenInAll_cons hfirst,
        ih (Nat.lt_of_succ_lt_succ hik) hi hrest, List.append_assoc]

/-- The descriptors that an engine owns are those that have been taken for it. -/
theorem owned_eq_taken (h : r.performAll opened b steps = (.ok owned, b')) :
    owned = opened ++ (r.takenInAll opened b steps).filterMap Acquisition.number? := by
  induction steps generalizing opened b with
  | nil =>
    cases h
    exact (List.append_nil _).symm
  | cons first rest ih =>
    obtain ⟨fresh, next, hfirst, hrest⟩ := performAll_cons_ok h
    rw [ih hrest, takenInAll_cons hfirst, List.filterMap_append, ← List.append_assoc,
      numbers_taken_of_ok hfirst]

/-! ## Whole creations -/

theorem eq_of_checkExclusive (h : r.perform opened b .checkExclusive = (.ok owned, b')) :
    owned = [] ∧ b = b' := by
  rw [perform] at h
  split at h <;> cases h
  exact ⟨rfl, rfl⟩

theorem eq_of_checkSelectable (h : r.perform opened b .checkSelectable = (.ok owned, b')) :
    owned = [] ∧ b = b' := by
  rw [perform, Prod.mk.injEq] at h
  cases hcheck : checkSelectable r.watched with
  | error e =>
    rw [hcheck] at h
    cases h.1
  | ok =>
    rw [hcheck] at h
    cases h.1
    exact ⟨rfl, h.2⟩

theorem eq_of_buffer (h : r.perform opened b .buffer = (.ok owned, b')) :
    (b.allocate r.messageSize).1 = none ∧ owned = [] ∧
      b' = { b with shortages := b.shortages.tail } := by
  rw [← b.allocate_snd r.messageSize]
  rw [perform] at h
  cases hasked : b.allocate r.messageSize with
  | mk refused next =>
    rw [hasked] at h
    cases refused <;> cases h
    exact ⟨rfl, rfl, rfl⟩

theorem eq_of_descriptor {context : String}
    (h : r.perform opened b (.descriptor context) = (.ok owned, b')) :
    ∃ n table, b.table.openOne = .ok (n, table) ∧ owned = [n] ∧ b' = { b with table } := by
  rw [perform] at h
  split at h
  · next hopen =>
    cases h
    obtain ⟨table, hopen, hsame⟩ := Bench.openOne_eq hopen
    exact ⟨_, table, hopen, rfl, hsame⟩
  · cases h

/-- How a refusal comes about whose number is only known when it has been given out. -/
structure TakenBack (r : EngineRequest) (b b' : Bench) (e : BenchError)
    (takings : List Acquisition) (n : Nat) : Prop where
  takings : takings = [.memory r.messageSize, .descriptor n]
  error : e = .capacityExceeded "select" n 1024
  /-- The descriptor is closed again, and the allocator has answered one request. Nothing else has
  changed. -/
  left : ∃ table, b.table.openOne = .ok (n, table) ∧
    b' = { b with table := table.close n, shortages := b.shortages.tail }
  accounts : ∀ numbers, b.table.Accounts numbers → b'.table.Accounts numbers

theorem StopBeyond.checkSelectable {n : Nat} (h : r.StopBeyond b n) :
    EngineRequest.checkSelectable r.watched = .ok () :=
  checkSelectable_ok_iff.mpr h.ends

/-- Before the last check, a select engine has passed the others and has its buffer and its stop
descriptor. -/
theorem select_before_last (hselect : r.mechanism = .select)
    (h : r.performAll [] b (Mechanism.select.setup.take 4) = (.ok owned, b')) :
    r.exclusive = false ∧ (∀ w ∈ r.watched, w.number < selectCapacity) ∧
      (b.allocate r.messageSize).1 = none ∧ ∃ n table,
        b.table.openOne = .ok (n, table) ∧ owned = [n] ∧
        b' = { b with table, shortages := b.shortages.tail } ∧
        r.takenInAll [] b (Mechanism.select.setup.take 4) =
          [.memory r.messageSize, .descriptor n] := by
  -- the four steps one after the other, each on the bench that the one before has left
  obtain ⟨_, _, hexclusive, h₁⟩ := performAll_cons_ok h
  obtain ⟨_, _, hends, h₂⟩ := performAll_cons_ok h₁
  obtain ⟨_, _, hbuffer, h₃⟩ := performAll_cons_ok h₂
  obtain ⟨_, _, hstop, hnil⟩ := performAll_cons_ok h₃
  obtain ⟨rfl, rfl⟩ := eq_of_checkExclusive hexclusive
  obtain ⟨rfl, rfl⟩ := eq_of_checkSelectable hends
  obtain ⟨hmemory, rfl, rfl⟩ := eq_of_buffer hbuffer
  obtain ⟨n, table, hopen, rfl, rfl⟩ := eq_of_descriptor hstop
  cases hnil
  have hplain := exclusive_of_checked (by rw [hselect]; rfl) hexclusive
  refine ⟨hplain, lt_of_checkSelectable hends, hmemory, n, table, hopen, rfl, rfl, ?_⟩
  have hopened := Bench.openOne_of_table (b := { b with shortages := b.shortages.tail }) hopen
  show r.takenInAll [] b
    [.checkExclusive, .checkSelectable, .buffer, .descriptor stopContext] = _
  rw [takenInAll_cons hexclusive, takenInAll_cons hends, takenInAll_cons hbuffer,
    takenInAll_cons hstop]
  simp only [taken, takenInAll, Bench.memoryTaken, hmemory, hopened, List.nil_append,
    List.singleton_append, List.append_nil]

theorem StopBeyond.unique {n n' : Nat} (h : r.StopBeyond b n) (h' : r.StopBeyond b n') :
    n = n' := by
  obtain ⟨table, hopen⟩ := h.opened
  obtain ⟨table', hopen'⟩ := h'.opened
  rw [hopen] at hopen'
  cases hopen'
  rfl

/-- However many of the steps there are, a configuration is refused before anything has been
taken, or when the last check sees the stop descriptor. -/
theorem refused_cases {k : Nat} (h : r.performAll [] b (r.mechanism.setup.take k) = (.error e, b'))
    (hclass : e.classOf = .configuration) :
    (∀ n, ¬ r.StopBeyond b n) ∧ r.takenInAll [] b (r.mechanism.setup.take k) = [] ∧ b' = b ∨
      ∃ n, r.StopBeyond b n ∧
        r.TakenBack b b' e (r.takenInAll [] b (r.mechanism.setup.take k)) n := by
  obtain ⟨i, step, owned, next, failed, hik, hi, hbefore, hfailed, hclosed⟩ := performAll_failed h
  have htaken := takenInAll_failed hik hi hbefore hfailed
  obtain ⟨hcheck, rfl⟩ := perform_configuration hfailed hclass
  rw [htaken, taken_of_isCheck hcheck, List.append_nil]
  rcases Mechanism.check_of_setup hi hcheck with
    ⟨rfl, rfl⟩ | ⟨hselect, ⟨rfl, rfl⟩ | ⟨rfl, rfl⟩⟩
  -- the mechanism cannot be exclusive
  · cases hbefore
    refine Or.inl ⟨fun n hstop => ?_, rfl, hclosed⟩
    simp [perform, hstop.exclusive] at hfailed
  -- the number of an end is too high
  · rw [hselect] at hbefore ⊢
    obtain ⟨_, _, hexclusive, hnil⟩ := performAll_cons_ok hbefore
    obtain ⟨rfl, rfl⟩ := eq_of_checkExclusive hexclusive
    cases hnil
    refine Or.inl ⟨fun n hstop => ?_, ?_, hclosed⟩
    · simp [perform, hstop.checkSelectable, Except.map] at hfailed
    · simp only [Mechanism.setup, List.take_succ_cons, List.take_zero, takenInAll, taken,
        hexclusive, List.append_nil]
  -- all ends fit, there is a buffer, and the stop descriptor is open
  · rw [hselect] at hbefore ⊢
    obtain ⟨hplain, hends, hmemory, n, table, hopen, rfl, rfl, htakings⟩ :=
      select_before_last hselect hbefore
    rw [perform, Prod.mk.injEq] at hfailed
    have hlast : ensureSelectable n = .error e := map_error hfailed.1
    have hbeyond : selectCapacity ≤ n := by
      by_contra hlt
      rw [ensureSelectable_natCast_iff.mpr (Nat.not_le.mp hlt)] at hlast
      cases hlast
    rw [ensureSelectable_misfit hbeyond, Except.error.injEq] at hlast
    refine Or.inr ⟨n, ⟨hselect, hplain, hends, hmemory, ⟨table, hopen⟩, hbeyond⟩, htakings,
      hlast.symm, ⟨table, hopen, hclosed⟩, fun numbers hnumbers => ?_⟩
    rw [hclosed]
    exact (hnumbers.openOne hopen).closeAll

/-- What is hindered is no fault of the configuration. -/
theorem classOf_performHindered (r : EngineRequest) (h : Hindrance) (b : Bench)
    (step : Option SetupStep) : (r.performHindered h b step).1.classOf ≠ .configuration := by
  unfold performHindered
  split
  · exact nofun
  · split
    · next hworkers =>
      exact fun hclass => Bool.false_ne_true (perform_configuration hworkers hclass).1
    · exact nofun
  · exact nofun

end EngineRequest

namespace Bench

variable {r : EngineRequest} {b b' : Bench} {e : BenchError}

/-- A hindrance comes too late for a configuration that is refused. -/
theorem performAll_of_refused {h : Option Hindrance} (hcreate : b.createUnder r h = (.error e, b'))
    (hclass : e.classOf = .configuration) :
    ∃ k, r.performAll [] b (r.mechanism.setup.take k) = (.error e, b') ∧
      b.takings r h = r.takenInAll [] b (r.mechanism.setup.take k) := by
  unfold createUnder at hcreate
  unfold takings
  cases hstrikes : h.filter (·.strikes r) with
  | none =>
    rw [hstrikes] at hcreate
    have hsteps := performAll_of_createEngine hcreate
    refine ⟨r.mechanism.setup.length, ?_, ?_⟩
    · rw [List.take_length]
      exact hsteps
    · simp only [hsteps, List.take_length, List.append_nil]
  | some hindrance =>
    simp only [hstrikes, EngineRequest.breakOff, Prod.mk.injEq, Except.error.injEq] at hcreate
    refine ⟨hindrance.steps, ?_⟩
    cases hsteps : r.performAll [] b (r.mechanism.setup.take hindrance.steps) with
    | mk result next =>
      rw [hsteps] at hcreate
      cases result with
      | error e' =>
        obtain ⟨rfl, rfl⟩ := hcreate
        refine ⟨rfl, ?_⟩
        simp only [hsteps, List.append_nil]
      | ok opened =>
        -- it is the hindrance that has failed, and that is another class of errors
        rw [← hcreate.1] at hclass
        exact absurd hclass (EngineRequest.classOf_performHindered r hindrance next _)

end Bench

/-- In surroundings that hinder nothing, such a stop descriptor does make the creation fail. -/
theorem EngineRequest.StopBeyond.refused {n : Nat} {r : EngineRequest} {b : Bench}
    (h : r.StopBeyond b n) :
    ∃ b', b.createUnder r none = (.error (.capacityExceeded "select" n 1024), b') := by
  obtain ⟨table, hopen⟩ := h.opened
  have hasked : b.allocate r.messageSize = (none, { b with shortages := b.shortages.tail }) :=
    Prod.ext h.memory (b.allocate_snd r.messageSize)
  have hopened := Bench.openOne_of_table (b := { b with shortages := b.shortages.tail }) hopen
  rw [Bench.createUnder_none, Bench.createEngine, h.mechanism]
  simp only [Mechanism.setup, EngineRequest.performAll, EngineRequest.perform, h.exclusive,
    Bool.false_and, Bool.false_eq_true, if_false, h.checkSelectable, hasked, EngineRequest.granted,
    hopened, Except.map, List.nil_append, List.append_nil, List.getLastD_cons, List.getLastD_nil,
    ensureSelectable_misfit h.beyond]
  exact ⟨_, rfl⟩

/-- **An error of the configuration has cost nothing, unless it was the stop descriptor that did
not fit.** The request may be any, whatever its plan was made for, and the pairs and the
surroundings too. -/
theorem refused_create (r : EngineRequest) (h : Option Hindrance) (b b' : Bench) (e : BenchError)
    (hcreate : b.createUnder r h = (.error e, b')) (hclass : e.classOf = .configuration) :
    ((∀ n, ¬ r.StopBeyond b n) → b.takings r h = [] ∧ b' = b) ∧
      ∀ n, r.StopBeyond b n → r.TakenBack b b' e (b.takings r h) n := by
  obtain ⟨k, hsteps, htakings⟩ := Bench.performAll_of_refused hcreate hclass
  rw [htakings]
  rcases EngineRequest.refused_cases hsteps hclass with ⟨hnone, hnothing⟩ | ⟨n, hstop, htaken⟩
  · exact ⟨fun _ => hnothing, fun n hstop => absurd hstop (hnone n)⟩
  · refine ⟨fun hnone => absurd hstop (hnone n), fun n' hstop' => ?_⟩
    rw [hstop'.unique hstop]
    exact htaken

/-- Where the first 1024 numbers are taken, a select engine on an old pair has its buffer and its
stop descriptor when it is refused. A threads engine that is to be exclusive has nothing. -/
theorem refused_create_full_table :
    let b : Bench := { table := { DescriptorTable.initial with frontier := 1024 } }
    let select : EngineRequest := ⟨.select, 4, false, [⟨0, 3⟩]⟩
    let threads : EngineRequest := ⟨.threads, 4, true, [⟨0, 3⟩]⟩
    let beyond : BenchError := .capacityExceeded "select" 1024 1024
    select.StopBeyond b 1024 ∧
      (∃ b', b.createUnder select none = (.error beyond, b') ∧
        select.TakenBack b b' beyond (b.takings select none) 1024) ∧
      b.createUnder threads none = (.error (.unsupportedExclusive "threads"), b) ∧
      b.takings threads none = [] := by
  intro b select threads beyond
  have hstop : select.StopBeyond b 1024 :=
    ⟨rfl, rfl, by decide, rfl, ⟨_, rfl⟩, by decide⟩
  have hselect : ∃ b', b.createUnder select none = (.error beyond, b') := hstop.refused
  have hthreads : b.createUnder threads none = (.error (.unsupportedExclusive "threads"), b) := rfl
  obtain ⟨b', hb'⟩ := hselect
  refine ⟨hstop, ⟨b', hb', (refused_create select none b b' beyond hb' rfl).2 1024 hstop⟩,
    hthreads, ?_⟩
  exact ((refused_create threads none b b _ hthreads rfl).1 fun n hn => nomatch hn.mechanism).1

/-- An error of the configuration may have cost a buffer and a descriptor. -/
theorem not_refused_for_nothing :
    ¬ ∀ (r : EngineRequest) (h : Option Hindrance) (b b' : Bench) (e : BenchError),
      b.createUnder r h = (.error e, b') → e.classOf = .configuration → b.takings r h = [] := by
  intro hall
  let b : Bench := { table := { DescriptorTable.initial with frontier := 1024 } }
  let select : EngineRequest := ⟨.select, 4, false, [⟨0, 3⟩]⟩
  have hstop : select.StopBeyond b 1024 := ⟨rfl, rfl, by decide, rfl, ⟨_, rfl⟩, by decide⟩
  obtain ⟨b', hb'⟩ := hstop.refused
  have hnothing : b.takings select none = [] := hall select none b b' _ hb' rfl
  have hdescriptor : b.takings select none = [.memory 4, .descriptor 1024] := by decide
  rw [hdescriptor] at hnothing
  cases hnothing

end ReadinessBench

import ReadinessBench.Proofs.Bench.Moments
import ReadinessBench.Proofs.Bench.Sanctioned
import ReadinessBench.Time.ProcessClock

/-!
# What breaks a run

A run that cannot be set up ends with an error. A few computations have no result to go on with:
room for more engines than can be addressed, a sum, a position behind the end of a list. Of these
only the first can happen. All others stay in range, since a process has few descriptors, and each
pair takes two of them.

One end is left out. The allocator may refuse the sixteen bytes for each engine although so many can
be addressed, and then the whole process is aborted, with neither a report nor an error.

Main statement: `unbroken_run`.
-/

namespace ReadinessBench

open DescriptorTable (numberLimit)

/-! ## How many pairs there can be -/

namespace DescriptorTable

variable {t t' : DescriptorTable} {numbers : List Nat}

/-- How many numbers can still be given out. -/
def room (t : DescriptorTable) : Nat := t.gaps.length + (numberLimit - t.frontier)

theorem room_openTwo {m n : Nat} (h : t.openTwo = .ok (m, n, t')) : t'.room + 2 = t.room := by
  unfold openTwo at h
  split at h
  · rename_i hallows
    have hroom : t.hasRoom 2 = true := (Bool.and_eq_true_iff.mp hallows).1
    have hfit := of_decide_eq_true hroom
    rw [List.length_take] at hfit
    -- both numbers come from the gaps, or one of them, or none
    match hgaps : t.gaps with
    | [] | [_] | _ :: _ :: _ =>
      simp only [spend, takeLowest, hgaps, Except.ok.injEq, Prod.mk.injEq] at h
      obtain ⟨-, -, rfl⟩ := h
      simp only [hgaps, List.length_cons, List.length_nil] at hfit
      simp only [room, hgaps, List.length_cons, List.length_nil]
      omega
  · cases h

/-- The gaps are numbers below the frontier, each once. -/
theorem Accounts.room_le (h : t.Accounts numbers) (hlimit : t.frontier ≤ numberLimit) :
    t.room ≤ numberLimit := by
  have hlength := List.Perm.length_eq h
  rw [List.length_append, List.length_append, List.length_range] at hlength
  unfold room
  omega

end DescriptorTable

namespace Bench

variable {b b' : Bench} {pairs : List Nat}

theorem room_openMore {made : List Nat} {n : Nat} (h : openMore made n b = (.ok pairs, b')) :
    b'.table.room + 2 * n = b.table.room := by
  induction n generalizing made b with
  | zero =>
    cases h
    rfl
  | succ n ih =>
    rw [openMore] at h
    split at h
    · rename_i engine generator table hopen
      have hrest : b'.table.room + 2 * n = table.room := ih h
      have htwo : table.room + 2 = b.table.room := DescriptorTable.room_openTwo hopen
      omega
    · cases h

end Bench

/-- What is kept of one worker in a list reserved for all of them: its thread, and whom to
interrupt. -/
def bytesPerWorker : Nat := 32

/-- Two descriptors for each pair leave few pairs, and there is memory for a slot or a worker for
each. -/
structure FewPairs (count : Nat) : Prop where
  descriptors : 2 * count ≤ numberLimit
  slots : Buffer.refusal? (bytesPerSlot * (count + 1)) = none
  workers : Buffer.refusal? (bytesPerWorker * count) = none

theorem FewPairs.of_descriptors {count : Nat} (h : 2 * count ≤ numberLimit) : FewPairs count := by
  have hnumbers : numberLimit = 1048576 := rfl
  have hmemory : Buffer.memoryLimit = 0x800000000000 := rfl
  have hsize : Buffer.sizeLimit = 0x8000000000000000 := rfl
  refine ⟨h, ?_, ?_⟩
  · rw [Buffer.refusal?, if_neg, if_neg] <;> rw [bytesPerSlot] <;> omega
  · rw [Buffer.refusal?, if_neg, if_neg] <;> rw [bytesPerWorker] <;> omega

/-! ## How far select has to look -/

namespace EngineRequest

variable {r : EngineRequest} {opened owned : List Nat} {b b' : Bench} {step : SetupStep}
  {rest : List SetupStep}

theorem performAll_cons_ok (h : r.performAll opened b (step :: rest) = (.ok owned, b')) :
    ∃ fresh next, r.perform opened b step = (.ok fresh, next) ∧
      r.performAll (opened ++ fresh) next rest = (.ok owned, b') := by
  rw [performAll] at h
  split at h
  · rename_i hstep
    exact ⟨_, _, hstep, h⟩
  · cases h

theorem lt_of_checkSelectable {fresh : List Nat}
    (h : r.perform opened b .checkSelectable = (.ok fresh, b')) :
    ∀ w ∈ r.watched, w.number < selectCapacity := by
  rw [perform, Prod.mk.injEq] at h
  cases hcheck : checkSelectable r.watched with
  | error e =>
    rw [hcheck] at h
    cases h.1
  | ok => exact checkSelectable_ok_iff.mp hcheck

theorem lt_of_checkLastSelectable {fresh : List Nat}
    (h : r.perform opened b .checkLastSelectable = (.ok fresh, b')) :
    fresh = [] ∧ opened.getLastD 0 < selectCapacity := by
  rw [perform, Prod.mk.injEq] at h
  cases hcheck : ensureSelectable (opened.getLastD 0 : Nat) with
  | error e =>
    rw [hcheck] at h
    cases h.1
  | ok =>
    rw [hcheck] at h
    cases h.1
    exact ⟨rfl, ensureSelectable_natCast_iff.mp hcheck⟩

/-- Select has looked at all numbers, its own included, by the time it is set up. -/
theorem selectable_of_performAll
    (h : r.performAll [] b Mechanism.select.setup = (.ok owned, b')) :
    (∀ w ∈ r.watched, w.number < selectCapacity) ∧ owned.getLastD 0 < selectCapacity := by
  -- the second step looks at the numbers of the pairs, the fifth at that of the stop counter
  obtain ⟨_, _, -, h⟩ := performAll_cons_ok h
  obtain ⟨_, _, hwatched, h⟩ := performAll_cons_ok h
  obtain ⟨_, _, -, h⟩ := performAll_cons_ok h
  obtain ⟨_, _, -, h⟩ := performAll_cons_ok h
  obtain ⟨_, _, hlast, h⟩ := performAll_cons_ok h
  obtain ⟨rfl, hstop⟩ := lt_of_checkLastSelectable hlast
  rw [performAll, Prod.mk.injEq, Except.ok.injEq, List.append_nil] at h
  exact ⟨lt_of_checkSelectable hwatched, h.1 ▸ hstop⟩

end EngineRequest

theorem scanBound_le {stop : Nat} {watched : List Watched}
    (hwatched : ∀ w ∈ watched, w.number < selectCapacity) (hstop : stop < selectCapacity) :
    SelectLoop.scanBound stop watched ≤ selectCapacity := by
  show List.foldl max 0 _ < selectCapacity
  refine foldl_max_lt_iff.mpr ⟨by decide, fun n hn => ?_⟩
  rcases List.mem_append.mp hn with hmem | hmem
  · obtain ⟨w, hw, rfl⟩ := List.mem_map.mp hmem
    exact hwatched w hw
  · rw [List.mem_singleton.mp hmem]
    exact hstop

/-- The kernel is told to look no further than a descriptor set goes. -/
theorem Bench.scanBound_createEngine {r : EngineRequest} {b b' : Bench} {e : EngineHandle}
    (hselect : r.mechanism = .select) (h : b.createEngine r = (.ok e, b')) :
    ∃ w, (e.id, w) ∈ b'.watchers ∧ w.watched = r.watched ∧
      SelectLoop.scanBound w.stopNumber w.watched ≤ selectCapacity := by
  unfold createEngine at h
  split at h
  · cases h
  · rename_i owned next hsteps
    rw [hselect] at hsteps
    obtain ⟨hwatched, hlast⟩ := EngineRequest.selectable_of_performAll hsteps
    cases h
    exact ⟨_, List.mem_append_right _ (List.mem_singleton.mpr rfl), rfl,
      scanBound_le hwatched hlast⟩

/-! ## A run -/

namespace Backend

variable {State : Type}

/-- Nothing but room for the engines breaks a run, and that only once there are pairs. -/
theorem run_error_iff (k : Backend State) (p : Plan) (draw : Draw) (patience : Patience) (s : State)
    (r : RangeError) :
    k.run p draw patience s = .error r ↔
      r = .reservationOverflow ∧ Buffer.sizeLimit ≤ Fleet.bytesPerEngine * p.engines ∧
        ∃ pairs b,
          (k.bench (k.record (.runStarting k.name p) s)).openPairs p.pairs = (.ok pairs, b) := by
  have hbegin : k.run p draw patience s = .error r ↔ k.begin p s = .error r := by
    unfold Backend.run
    constructor <;> intro h
    · split at h <;> cases h
      assumption
    · rw [h]
  rw [hbegin]
  unfold Backend.begin
  dsimp only
  cases hpairs : (k.bench (k.record (.runStarting k.name p) s)).openPairs p.pairs with
  | mk result b =>
    cases result with
    -- without pairs, room for engines is not asked for
    | error e =>
      refine ⟨nofun, ?_⟩
      rintro ⟨-, -, pairs, b', hopened⟩
      cases hopened
    | ok pairs =>
      dsimp only
      by_cases hroom : Fleet.isReservable p.engines = true
      -- with room for the engines, what follows succeeds or ends with an error
      · have hfits := of_decide_eq_true hroom
        rw [Fleet.create, if_pos hroom]
        generalize Fleet.extend k p pairs [] p.engines _ = made
        obtain ⟨outcome, next⟩ := made
        refine ⟨fun h => ?_, fun h => absurd hfits (Nat.not_lt.mpr h.2.1)⟩
        cases outcome with
        | error e => cases h
        | ok fleet =>
          dsimp only at h
          split at h
          · cases h
          · split at h <;> cases h
      · have hlarge := Nat.not_lt.mp fun hfits => hroom (decide_eq_true hfits)
        rw [Fleet.create, if_neg hroom]
        constructor
        · intro h
          cases h
          exact ⟨rfl, hlarge, pairs, b, rfl⟩
        · rintro ⟨rfl, -, -⟩
          rfl

end Backend

/-- A run of the plan from this bench breaks for one reason only, and what it computes on its way is
in range. -/
structure Unbroken (p : Plan) (b : Bench) : Prop where
  /-- Otherwise the run has an outcome, good or bad, as long as the allocator does not refuse the
  room that was reserved for the engines. -/
  breaks_iff : ∀ draw patience r, p.mechanism.backend.run p draw patience b = .error r ↔
    r = .reservationOverflow ∧ Buffer.sizeLimit ≤ Fleet.bytesPerEngine * p.engines ∧
      ∃ pairs c, (b.record (.runStarting p.mechanism.name p)).openPairs p.pairs = (.ok pairs, c)
  fewPairs : ∀ pairs c,
    (b.record (.runStarting p.mechanism.name p)).openPairs p.pairs = (.ok pairs, c) →
      pairs.length = p.pairs ∧ FewPairs p.pairs
  /-- On whatever bench an engine of the run is created. -/
  scans : p.mechanism = .select → ∀ pairs c e c',
    p.mechanism.backend.create p pairs c = (.ok e, c') →
      ∃ w, (e.id, w) ∈ c'.watchers ∧ SelectLoop.scanBound w.stopNumber w.watched ≤ selectCapacity
  /-- Wherever the traffic comes to. -/
  inRange : ∀ u c, p.mechanism.backend.begin p b = .ok (.ok u, c) → ∀ draw,
    (∀ steps t, (u.traffic draw c).Reaches steps t →
      t.workload.current < p.pairs ∧ t.pairs[t.workload.current]? = some t.target ∧
        6 * t.workload.roundTrips ≤ steps + 1) ∧
    ∀ n, ∃ steps, (u.traffic draw c).Reaches steps ((u.traffic draw c).run n) ∧ steps ≤ 6 * n + 1
  /-- The processor time is read before the traffic and after it. -/
  clock : ∀ user system, IsCounted user → IsCounted system →
    ∃ span, processTime user system = .ok span

theorem Bench.inRange_prepare {b b' : Bench} {n size : Nat} {w : Workload}
    (h : b.prepare n size = (.ok w, b')) : w.pairs = n ∧ w.current < n ∧ w.progress = 1 := by
  rw [Bench.prepare] at h
  split at h
  · cases h
  · rename_i hpairs
    split at h
    · cases h
    · split at h <;> cases h
      exact ⟨rfl, Nat.pos_of_ne_zero hpairs, rfl⟩

/-- **Only the room for its engines breaks a run.** The process has any descriptors open below the
limit for their numbers, and it may be short of descriptors and of memory. Whatever happens while
the traffic goes on, the workload's pair is one of the pairs. -/
theorem unbroken_run (p : Plan) (b : Bench) (numbers : List Nat)
    (hopen : b.table.Accounts numbers) (hlimit : b.table.frontier ≤ numberLimit) :
    Unbroken p b where
  breaks_iff draw patience r := by
    rw [Mechanism.backend_eq]
    exact (Bench.backend p.mechanism).run_error_iff p draw patience b r
  fewPairs pairs c hpairs := by
    have hcount : pairs.length = 0 + p.pairs := Bench.length_openMore hpairs
    have hroom := Bench.room_openMore hpairs
    change c.table.room + 2 * p.pairs = b.table.room at hroom
    have hle := hopen.room_le hlimit
    exact ⟨by rw [hcount, Nat.zero_add], .of_descriptors (by omega)⟩
  scans hselect pairs c e c' hcreate := by
    rw [Mechanism.create_backend] at hcreate
    obtain ⟨w, hw, -, hbound⟩ := Bench.scanBound_createEngine hselect hcreate
    exact ⟨w, hw, hbound⟩
  inRange u c hbegin draw := by
    refine ⟨?_, fun n => Traffic.reaches_run _ n⟩
    cases Backend.begin_cases hbegin with
    | ready hpairs hengines hworkload htimer =>
      have hcount : _ = 0 + p.pairs := Bench.length_openMore hpairs
      rw [Nat.zero_add] at hcount
      obtain ⟨hcounted, hcurrent, hprogress⟩ := Bench.inRange_prepare hworkload
      rw [hcount] at hcounted hcurrent
      intro steps t hreaches
      have ht : t.InRange p.pairs steps :=
        hreaches.inRange ⟨hcount, hcounted, hcurrent, hprogress.le⟩
      exact ⟨ht.current_lt, ht.getElem?_current, ht.roundTrips_le⟩
  clock user system huser hsystem := processTime_eq_ok huser hsystem

/-- Three engines on two pairs: the run has an outcome, and each of its calls goes to one of the two
pairs. -/
theorem unbroken_run_two_pairs :
    let p : Plan := ⟨.poll, 3, 2, 1, false, usualDuration, by decide, by decide, by decide,
      by decide, by decide⟩
    let b : Bench := {}
    b.table.Accounts [0, 1, 2] ∧ b.table.frontier ≤ numberLimit ∧ FewPairs 2 ∧
      (∀ draw patience, ∃ outcome, p.mechanism.backend.run p draw patience b = .ok outcome) ∧
      ∃ u c, p.mechanism.backend.begin p b = .ok (.ok u, c) ∧
        ∀ draw steps t, (u.traffic draw c).Reaches steps t → t.workload.current < 2 := by
  intro p b
  have hopen : b.table.Accounts [0, 1, 2] := DescriptorTable.initial_accounts
  have hunbroken : Unbroken p b := unbroken_run p b [0, 1, 2] hopen (by decide)
  refine ⟨hopen, by decide, .of_descriptors (by decide), fun draw patience => ?_, ?_⟩
  · cases hrun : p.mechanism.backend.run p draw patience b with
    | error r =>
      obtain ⟨-, hlarge, -⟩ := (hunbroken.breaks_iff draw patience r).mp hrun
      exact absurd hlarge (by decide)
    | ok outcome => exact ⟨outcome, rfl⟩
  · refine ⟨_, _, rfl, fun draw steps t hreaches => ?_⟩
    exact ((hunbroken.inRange _ _ rfl draw).1 steps t hreaches).1

/-- A plan may ask for more engines than there can be room for. -/
theorem not_unbroken_many_engines :
    ¬ ∀ (p : Plan) (draw : Draw) (patience : Patience) (b : Bench),
      ∃ outcome b', p.mechanism.backend.run p draw patience b = .ok (outcome, b') := by
  intro hall
  let p : Plan := ⟨.select, 0x800000000000000, 1, 1, false, usualDuration, by decide, by decide,
    by decide, by decide, by decide⟩
  obtain ⟨outcome, b', hrun⟩ := hall p ⟨0⟩ .untilIdle {}
  have hbroken : p.mechanism.backend.run p ⟨0⟩ .untilIdle {} = .error .reservationOverflow :=
    (p.mechanism.backend.run_error_iff p ⟨0⟩ .untilIdle ({} : Bench) _).mpr
      ⟨rfl, by decide, _, _, rfl⟩
  rw [hbroken] at hrun
  cases hrun

end ReadinessBench

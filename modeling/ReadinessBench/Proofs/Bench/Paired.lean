import ReadinessBench.Proofs.Bench.Farewell
import ReadinessBench.Proofs.Bench.Quiet

/-!
# Starts and stops

Every stop in the journal is that of an engine whose start stands before it, with one exception. A
threads engine that fails on one of its workers has not been started and says that it has stopped.
Scripts create and destroy engines and fleets, in surroundings that may hinder any creation at any
step, and make whole runs. Main statement: `paired_run`.
-/

namespace ReadinessBench

open Bench (Quiet)

/-! ## Counting -/

namespace Event

variable (engine : String)

def starts (events : List Event) : Nat := events.countP (·.started? = some engine)

def stops (events : List Event) : Nat := events.countP (·.stopped? = some engine)

theorem starts_append (events more : List Event) :
    starts engine (events ++ more) = starts engine events + starts engine more :=
  List.countP_append

theorem stops_append (events more : List Event) :
    stops engine (events ++ more) = stops engine events + stops engine more :=
  List.countP_append

theorem starts_concat (events : List Event) (e : Event) :
    starts engine (events ++ [e]) =
      starts engine events + if e.started? = some engine then 1 else 0 := by
  simp [starts, List.countP_append, List.countP_cons]

theorem stops_concat (events : List Event) (e : Event) :
    stops engine (events ++ [e]) =
      stops engine events + if e.stopped? = some engine then 1 else 0 := by
  simp [stops, List.countP_append, List.countP_cons]

theorem counts_of_quiet {events : List Event} (h : ∀ e ∈ events, e.isQuiet) :
    starts engine events = 0 ∧ stops engine events = 0 := by
  constructor
  · rw [starts, List.countP_eq_zero]
    intro e he
    simp [(h e he).1]
  · rw [stops, List.countP_eq_zero]
    intro e he
    simp [(h e he).2]

end Event

open Event (starts stops starts_append stops_append starts_concat stops_concat)

/-- With `live` engines of this name at work, there have been as many starts as stops, but for the
engines at work and for `extra` stops that no start belongs to. -/
structure Matched (engine : String) (events : List Event) (live extra : Nat) : Prop where
  balance : starts engine events + extra = stops engine events + live
  /-- At no time have there been more stops. -/
  before : ∀ n, stops engine (events.take n) ≤ starts engine (events.take n) + extra

namespace Matched

variable {engine : String} {events fresh : List Event} {e : Event} {live live' extra extra' : Nat}

theorem append_quiet (h : Matched engine events live extra) (hfresh : ∀ e ∈ fresh, e.isQuiet) :
    Matched engine (events ++ fresh) live extra := by
  constructor
  · have hbalance := h.balance
    obtain ⟨hstarts, hstops⟩ := Event.counts_of_quiet engine hfresh
    rw [starts_append, stops_append, hstarts, hstops]
    omega
  · intro n
    have hbefore := h.before n
    have hquiet : ∀ e ∈ fresh.take (n - events.length), e.isQuiet :=
      fun e he => hfresh e (List.mem_of_mem_take he)
    obtain ⟨hstarts, hstops⟩ := Event.counts_of_quiet engine hquiet
    rw [List.take_append, starts_append, stops_append, hstarts, hstops]
    omega

/-- After one more event only the balance has to be looked at. -/
theorem concat (h : Matched engine events live extra) (hextra : extra ≤ extra')
    (hbalance : starts engine (events ++ [e]) + extra' = stops engine (events ++ [e]) + live') :
    Matched engine (events ++ [e]) live' extra' := by
  refine ⟨hbalance, fun n => ?_⟩
  by_cases hn : n ≤ events.length
  · have hbefore := h.before n
    rw [List.take_append_of_le_length hn]
    omega
  -- all events have been taken, and the balance says more than is needed
  · rw [List.take_of_length_le (by rw [List.length_append, List.length_singleton]; omega)]
    omega

theorem start {name : String} (h : Matched engine events live extra)
    (hstart : e.started? = some name) (hstop : e.stopped? = none) :
    Matched engine (events ++ [e]) (live + if name = engine then 1 else 0) extra := by
  have hbalance := h.balance
  apply h.concat (Nat.le_refl _)
  rw [starts_concat, stops_concat, hstart, hstop]
  simp only [Option.some.injEq, reduceCtorEq, if_false]
  omega

theorem stop {name : String}
    (h : Matched engine events (live + if name = engine then 1 else 0) extra)
    (hstart : e.started? = none) (hstop : e.stopped? = some name) :
    Matched engine (events ++ [e]) live extra := by
  have hbalance := h.balance
  apply h.concat (Nat.le_refl _)
  rw [starts_concat, stops_concat, hstart, hstop]
  simp only [Option.some.injEq, reduceCtorEq, if_false]
  omega

/-- A stop of what has never started. -/
theorem stray {name : String} (h : Matched engine events live extra)
    (hstart : e.started? = none) (hstop : e.stopped? = some name) :
    Matched engine (events ++ [e]) live (extra + if name = engine then 1 else 0) := by
  have hbalance := h.balance
  apply h.concat (Nat.le_add_right _ _)
  rw [starts_concat, stops_concat, hstart, hstop]
  simp only [Option.some.injEq, reduceCtorEq, if_false]
  omega

end Matched

/-! ## Engines at work -/

namespace Circumstances

/-- How many engines of this name are at work. -/
def live (s : Circumstances) (engine : String) : Nat :=
  s.bench.tenants.countP (·.mechanism.name = engine)

/-- How many of the stops of this engine have no start. -/
def strays (s : Circumstances) (engine : String) : Nat :=
  if Mechanism.threads.name = engine then s.abandoned else 0

/-- What holds between the steps of a script. -/
structure Kept (s : Circumstances) : Prop where
  distinct : (s.bench.tenants.map Tenant.id).Nodup
  numbered : ∀ x ∈ s.bench.tenants, x.id < s.bench.nextWatcher
  matched : ∀ engine, Matched engine s.bench.journal.toList (s.live engine) (s.strays engine)

namespace Kept

variable {s s' : Circumstances} {b : Bench}

/-- Where the same engines are at work, only the journal has to be looked at. -/
theorem of_same (h : s.Kept) (htenants : s'.bench.tenants = s.bench.tenants)
    (hnext : s'.bench.nextWatcher = s.bench.nextWatcher)
    (hmatched : ∀ engine,
      Matched engine s'.bench.journal.toList (s.live engine) (s'.strays engine)) : s'.Kept := by
  refine ⟨?_, ?_, fun engine => ?_⟩
  · rw [htenants]
    exact h.distinct
  · rw [htenants, hnext]
    exact h.numbered
  · rw [live, htenants]
    exact hmatched engine

theorem quiet (h : s.Kept) (hquiet : Quiet s.bench b) : Kept { s with bench := b } := by
  obtain ⟨events, hjournal, hevents⟩ := hquiet.journal
  refine h.of_same hquiet.tenants hquiet.nextWatcher fun engine => ?_
  rw [hjournal]
  exact (h.matched engine).append_quiet hevents

theorem create (h : s.Kept) (m : Mechanism) (p : Plan) (pairs : List Nat) :
    (m.hindered.create p pairs s).2.Kept := by
  let r := Bench.request m p pairs s.bench
  cases hcreate : s.bench.createUnder r s.hindrance? with
  | mk result next =>
    cases result with
    | ok engine =>
      obtain ⟨w, hw, htenants, hnext, hjournal⟩ :=
        Bench.createEngine_started (Bench.createEngine_of_createUnder hcreate)
      have hstate : (m.hindered.create p pairs s).2 =
          { s with bench := next, hindrances := s.hindrances.tail } := by
        simp only [Mechanism.hindered, r, hcreate]
      rw [hstate]
      refine ⟨?_, ?_, fun engine => ?_⟩
      · show (next.tenants.map Tenant.id).Nodup
        rw [htenants, List.map_append, List.nodup_append]
        refine ⟨h.distinct, List.nodup_singleton _, fun i hi j hj => ?_⟩
        -- the new engine has a number that no engine has had before
        obtain ⟨y, hy, rfl⟩ := List.mem_map.mp hi
        rw [List.mem_singleton.mp hj]
        exact Nat.ne_of_lt (h.numbered y hy)
      · show ∀ x ∈ next.tenants, x.id < next.nextWatcher
        rw [htenants, hnext, List.forall_mem_append]
        exact ⟨fun x hx => Nat.lt_succ_of_lt (h.numbered x hx),
          List.forall_mem_singleton.mpr (Nat.lt_succ_self _)⟩
      · have hmatched := (h.matched engine).start w.started?_startEvent w.stopped?_startEvent
        show Matched engine next.journal.toList (next.tenants.countP _) _
        rw [hjournal, htenants, List.countP_append, List.countP_singleton]
        simp only [decide_eq_true_eq]
        exact hmatched
    | error e =>
      obtain ⟨hacquired, hjournal⟩ := Bench.createUnder_failed hcreate
      have hstate : (m.hindered.create p pairs s).2 = {
          bench := next
          hindrances := s.hindrances.tail
          abandoned := s.abandoned + (r.comesToWorkers s.hindrance?).toNat } := by
        simp only [Mechanism.hindered, r, hcreate]
      rw [hstate]
      refine h.of_same hacquired.books.tenants hacquired.books.nextWatcher fun engine => ?_
      have hmatched := h.matched engine
      rw [hjournal]
      cases r.comesToWorkers s.hindrance? with
      | false =>
        rw [if_neg Bool.false_ne_true, List.append_nil]
        exact hmatched
      | true =>
        -- the group has stopped, though it has never started
        have hstray := hmatched.stray (e := .workersStopped "threads") rfl rfl
        have hmore : (if Mechanism.threads.name = engine then s.abandoned + 1 else 0) =
            s.strays engine + if "threads" = engine then 1 else 0 := by
          unfold strays
          by_cases hname : "threads" = engine <;> simp [Mechanism.name, hname]
        rw [← hmore] at hstray
        exact hstray

theorem destroy (h : s.Kept) (id : Nat) : Kept { s with bench := s.bench.destroyEngine id } := by
  rcases s.bench.destroyEngine_stopped id with hsame | ⟨w, hmem, htenants, hnext, hjournal⟩
  · rw [hsame]
    exact h
  · have hperm := Bench.perm_cons_filter h.distinct hmem
    change s.bench.tenants.Perm (_ :: s.bench.tenants.filter (·.id != id)) at hperm
    rw [← htenants] at hperm
    refine ⟨?_, ?_, fun engine => ?_⟩
    · exact (List.nodup_cons.mp ((hperm.map Tenant.id).nodup_iff.mp h.distinct)).2
    · intro x hx
      rw [hnext]
      exact h.numbered x (hperm.mem_iff.mpr (List.mem_cons_of_mem _ hx))
    · have hmatched := h.matched engine
      rw [live, hperm.countP_eq, List.countP_cons] at hmatched
      simp only [decide_eq_true_eq] at hmatched
      rw [hjournal]
      exact hmatched.stop w.started?_stopEvent w.stopped?_stopEvent

end Kept

theorem keeps (m : Mechanism) : m.hindered.Keeps Kept where
  create p pairs _ h := h.create m p pairs
  destroy e _ h := h.destroy e.id
  setBench _ _ h hquiet := h.quiet hquiet

/-! ## One step, and whole scripts -/

theorem Kept.concluded {s : Circumstances} {α : Type} (h : s.Kept)
    {asked : Except RangeError (Except BenchError α × Circumstances)}
    (hasked : ∀ result t, asked = .ok (result, t) → t.Kept) : (s.concluded asked).2.Kept := by
  cases asked with
  | error r => exact h
  | ok asked =>
    rw [concluded_ok]
    exact hasked asked.1 asked.2 rfl

theorem Kept.perform {s : Circumstances} (h : s.Kept) (x : Chore) : (s.perform x).2.Kept := by
  cases x with
  | openPairs count =>
    refine h.concluded fun result t hasked => ?_
    cases hasked
    exact h.quiet (Quiet.openMore s.bench [] count)
  | dropPair pair => exact h.quiet (Quiet.dropPair s.bench pair)
  | create m p pairs =>
    refine h.concluded fun result t hasked => ?_
    have hcreated := h.create m p pairs
    rwa [Except.ok.inj hasked] at hcreated
  | createFleet m p count pairs =>
    exact h.concluded fun result t hcreate => (keeps m).createFleet h hcreate
  | destroy m e => exact h.destroy e.id
  | destroyFleet m f => exact (keeps m).destroyAll h f.reverse
  | run m p draw patience => exact h.concluded fun result t hrun => (keeps m).run h hrun
  | traffic e => exact h.quiet (Quiet.errand s.bench e)
  | grant left => exact h.quiet (Quiet.of_same rfl rfl rfl)
  | occupy n => exact h.quiet (Quiet.of_same rfl rfl rfl)
  | vacate => exact h.quiet (Quiet.of_same rfl rfl rfl)
  | setTable table => exact h.quiet (Quiet.of_same rfl rfl rfl)
  | setShortages shortages => exact h.quiet (Quiet.of_same rfl rfl rfl)
  | setUnarmed unarmed => exact h.quiet (Quiet.of_same rfl rfl rfl)
  | setHindrances hindrances => exact ⟨h.distinct, h.numbered, h.matched⟩

/-- What is said of an engine of this name by the end of a script. -/
structure Paired (s : Circumstances) (engine : String) : Prop where
  matched : Matched engine s.bench.journal.toList (s.live engine) (s.strays engine)
  idle : s.bench.watchers = [] →
    (stops engine s.bench.journal.toList = starts engine s.bench.journal.toList ↔
      s.strays engine = 0)

/-- In a script that may do anything. -/
def anything : Rule := fun _ _ => true

/-- **Stops follow starts, except where a threads engine is abandoned.** The script is any, and so
are the surroundings of each creation. -/
theorem paired_run (table : DescriptorTable) (script : List Chore) (engine : String) :
    (run anything { bench := { table } } script).Paired engine := by
  have hstart : Kept { bench := { table } } := by
    refine ⟨List.nodup_nil, nofun, fun engine => ⟨?_, fun n => ?_⟩⟩
    · simp [starts, stops, live, strays, Bench.tenants]
    · simp [starts, stops]
  have hkept : (run anything { bench := { table } } script).Kept :=
    run_keeps (I := Kept) (fun _ x h _ => h.perform x) hstart script
  have hmatched := hkept.matched engine
  refine ⟨hmatched, fun hidle => ?_⟩
  have hbalance := hmatched.balance
  have hnone : (run anything { bench := { table } } script).live engine = 0 := by
    rw [live, Bench.tenants, hidle]
    rfl
  omega

/-- A stop may stand in the journal before any start. -/
theorem not_paired_out_of_memory :
    ¬ ∀ (script : List Chore) (engine : String) (n : Nat),
      let events := (run anything {} script).bench.journal.toList.take n
      stops engine events ≤ starts engine events := by
  intro hall
  let huge : Plan := ⟨.threads, 1, 1, 140737488355328, false, usualDuration, by decide, by decide,
    by decide, by decide, by decide⟩
  have hfirst := hall [.openPairs 1, .create .threads huge [0]] "threads" 2
  exact absurd hfirst (by decide)

end Circumstances

end ReadinessBench

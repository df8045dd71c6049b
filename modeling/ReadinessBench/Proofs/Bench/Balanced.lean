import ReadinessBench.Proofs.Bench.Moments
import ReadinessBench.Proofs.Bench.Script

/-!
# No descriptor is leaked

Whatever succeeds in a script and whatever fails, the books stay right. Engines are asked for on
pairs that have not been dropped, since nobody else has an engines' end to hand to them, and nobody
but the script opens and closes descriptors. Main statement: `balanced_run`.
-/

namespace ReadinessBench

open Bench

/-! ## Whole runs -/

namespace Backend.OnBench

variable {State : Type} {k : Backend State} {s s' t : State} {base pairs : List Nat} {p : Plan}
  {b b' : Bench}

theorem dropPairs_booked (hk : k.OnBench) (hb : (k.bench s).Booked base) (pairs : List Nat) :
    (k.bench (k.update (·.dropPairs pairs) s)).Booked base := by
  rw [Backend.update, hk.bench_setBench]
  exact hb.dropAll _

/-- The pairs of a run are there for its engines. -/
theorem opened (hk : k.OnBench) (hb : (k.bench s).Booked base)
    (hpairs : (k.bench s).openPairs p.pairs = (.ok pairs, b)) :
    (k.bench (k.setBench b s)).Booked base ∧
      ∀ q ∈ pairs, (k.bench (k.setBench b s)).isHeld q = true := by
  rw [hk.bench_setBench]
  exact ⟨hb.of_openPairs hpairs, hb.isHeld_openPairs hpairs⟩

/-- When the pairs are dropped again, no more is left of the run than had been left of its
engines. -/
theorem undone (hk : k.OnBench) (hb : (k.bench s).Booked base)
    (hpairs : (k.bench s).openPairs p.pairs = (.ok pairs, b))
    (hsame : SameUse (k.bench (k.setBench b s)) (k.bench t)) :
    SameUse (k.bench s) (k.bench (k.update (·.dropPairs pairs) t)) := by
  rw [hk.bench_setBench] at hsame
  rw [Backend.update, hk.bench_setBench]
  exact hb.openPairs_undone hpairs hsame

/-- A run is taken down while its workload is being set up. -/
theorem takenDown (hk : k.OnBench) (hb : (k.bench s).Booked base) {fleet : Fleet}
    (hpairs : (k.bench s).openPairs p.pairs = (.ok pairs, b))
    (hengines : Fleet.create k p p.engines pairs (k.setBench b s) = .ok (.ok fleet, s'))
    (hsame : SameBooks (k.bench s') b') :
    let final := k.update (·.dropPairs pairs) (fleet.destroy k (k.setBench b' s'))
    (k.bench final).Booked base ∧ SameUse (k.bench s) (k.bench final) := by
  obtain ⟨hbooked, hheld⟩ := hk.opened hb hpairs
  rw [← hk.bench_setBench b' s'] at hsame
  have hmade := hsame.booked (Fleet.create_booked hk hbooked hheld hengines)
  exact ⟨hk.dropPairs_booked (.destroyAll hk hmade _) pairs,
    hk.undone hb hpairs (Fleet.create_undone hk hbooked hheld hengines hsame)⟩

theorem begun (hk : k.OnBench) {result : Except BenchError Underway}
    (hb : (k.bench s).Booked base) (h : Begun k p s result s') :
    (k.bench s').Booked base ∧ ∀ e, result = .error e → SameUse (k.bench s) (k.bench s') := by
  have hprepared {c c' : Bench} {n size : Nat} {outcome : Except BenchError Workload}
      (hworkload : c.prepare n size = (outcome, c')) : SameBooks c c' := by
    have hsame := SameBooks.prepare c n size
    rwa [hworkload] at hsame
  have harmed {c c' : Bench} {refusal : Option BenchError} (htimer : c.arm = (refusal, c')) :
      SameBooks c c' := by
    have hsame := SameBooks.arm c
    rwa [htimer] at hsame
  cases h with
  | noPairs hpairs =>
    rw [hk.bench_setBench]
    exact ⟨hb.of_openPairs hpairs, fun _ _ => hb.openPairs_error hpairs⟩
  | noEngines hpairs hengines =>
    obtain ⟨hbooked, hheld⟩ := hk.opened hb hpairs
    exact ⟨hk.dropPairs_booked (Fleet.create_booked hk hbooked hheld hengines) _,
      fun _ _ => hk.undone hb hpairs (Fleet.create_error hk hbooked hheld hengines)⟩
  | noWorkload hpairs hengines hworkload =>
    exact (hk.takenDown hb hpairs hengines (hprepared hworkload)).imp_right fun h _ _ => h
  | noTimer hpairs hengines hworkload htimer =>
    have hsame := (hprepared hworkload).trans (harmed htimer)
    exact (hk.takenDown hb hpairs hengines hsame).imp_right fun h _ _ => h
  | ready hpairs hengines hworkload htimer =>
    obtain ⟨hbooked, hheld⟩ := hk.opened hb hpairs
    have hsame := (hprepared hworkload).trans (harmed htimer)
    rw [hk.bench_setBench]
    exact ⟨hsame.booked (Fleet.create_booked hk hbooked hheld hengines), nofun⟩

/-- A run keeps the books right, and if it fails, nothing is left of it in the use of the bench. -/
theorem run (hk : k.OnBench) {draw : Draw} {patience : Patience}
    {result : Except BenchError TrafficEnd} (hb : (k.bench s).Booked base)
    (h : k.run p draw patience s = .ok (result, s')) :
    (k.bench s').Booked base ∧ ∀ e, result = .error e → SameUse (k.bench s) (k.bench s') := by
  have hstarted := SameBooks.record (k.bench s) (.runStarting k.name p)
  rw [← hk.bench_record] at hstarted
  have hbegun {outcome : Except BenchError Underway} {t : State}
      (hbegin : k.begin p s = .ok (outcome, t)) :
      (k.bench t).Booked base ∧ ∀ e, outcome = .error e → SameUse (k.bench s) (k.bench t) :=
    (hk.begun (hstarted.booked hb) (begin_cases hbegin)).imp_right
      fun hfailed e he => hstarted.sameUse.trans (hfailed e he)
  unfold Backend.run at h
  split at h
  · cases h
  · next hbegin =>
    cases h
    exact ⟨(hbegun hbegin).1, fun _ _ => (hbegun hbegin).2 _ rfl⟩
  · next u t hbegin =>
    cases h
    have hdriven := SameBooks.keptByCalls.drive (k.bench t) u.workload u.pairs draw
      (patience.limit (k.bench t) u.pairs)
    have hended := hdriven.booked (hbegun hbegin).1
    refine ⟨?_, nofun⟩
    rw [conclude, hk.bench_record]
    refine (SameBooks.record _ _).booked (hk.dropPairs_booked (.destroyAll hk ?_ _) _)
    rw [hk.bench_setBench]
    exact hended

end Backend.OnBench

/-! ## One step -/

namespace Circumstances

variable {s s' : Circumstances} {base : List Nat}

/-- Only pairs that have not been dropped are handed to engines, and descriptors are opened and
closed by the script alone. -/
def undisturbed : Rule := fun b x =>
  x.isOn b.isHeld &&
    match x with
    | .setTable _ => false
    | _ => true

/-- A step keeps the books right; if it fails, the use of the bench is what it was. -/
theorem perform_booked {x : Chore} {ending : ChoreEnd} (hb : s.bench.Booked base)
    (hallowed : undisturbed s.bench x = true) (h : s.perform x = (ending, s')) :
    s'.bench.Booked base ∧ (ending.isFailure = true → SameUse s.bench s'.bench) := by
  -- what is given or refused keeps the books right, and a panic has come to nothing
  have hconcluded {α : Type} {asked : Except RangeError (Except BenchError α × Circumstances)}
      (hasked : ∀ result t, asked = .ok (result, t) → t.bench.Booked base ∧
        ∀ e, result = .error e → SameUse s.bench t.bench)
      (h : s.concluded asked = (ending, s')) :
      s'.bench.Booked base ∧ (ending.isFailure = true → SameUse s.bench s'.bench) := by
    rcases concluded_cases h with ⟨-, rfl⟩ | ⟨result, hresult, hfailure⟩
    · exact ⟨hb, fun _ => SameUse.refl _⟩
    · obtain ⟨hbooked, hfailed⟩ := hasked result s' hresult
      refine ⟨hbooked, fun hend => ?_⟩
      obtain ⟨e, he⟩ := hfailure hend
      exact hfailed e he
  have hheld {pairs : List Nat} (hpairs : pairs.all s.bench.isHeld && true) :
      ∀ q ∈ pairs, s.bench.isHeld q = true :=
    List.all_eq_true.mp (Bool.and_eq_true_iff.mp hpairs).1
  cases x with
  | openPairs count =>
    refine hconcluded (fun result t hasked => ?_) h
    cases hasked
    exact ⟨hb.openPairs count, fun e he => hb.openPairs_error (Prod.ext he rfl)⟩
  | dropPair pair =>
    cases h
    exact ⟨hb.dropPair pair, nofun⟩
  | create m p pairs =>
    refine hconcluded (fun result t hasked => ?_) h
    have hcreated := m.hindered_onBench.create (Except.ok.inj hasked)
    refine ⟨hcreated.booked hb (hheld hallowed), fun e he => ?_⟩
    subst he
    exact hcreated.sameUse
  | createFleet m p count pairs =>
    refine hconcluded (fun result t hasked => ?_) h
    have hk := m.hindered_onBench
    refine ⟨Fleet.create_booked hk hb (hheld hallowed) hasked, fun e he => ?_⟩
    subst he
    exact Fleet.create_error hk hb (hheld hallowed) hasked
  | destroy m e =>
    cases h
    exact ⟨hb.destroyEngine e.id, nofun⟩
  | destroyFleet m f =>
    cases h
    exact ⟨.destroyAll m.hindered_onBench hb f.reverse, nofun⟩
  | run m p draw patience =>
    exact hconcluded (fun result t hasked => m.hindered_onBench.run hb hasked) h
  | traffic e =>
    cases h
    exact ⟨(SameBooks.errand s.bench e).booked hb, nofun⟩
  | grant left =>
    cases h
    exact ⟨hb.setTable hb.numbers, nofun⟩
  | occupy n =>
    cases h
    exact ⟨hb.setTable (hb.numbers.fill n), nofun⟩
  | vacate =>
    cases h
    exact ⟨hb.setTable hb.numbers.unfill, nofun⟩
  | setTable table => cases hallowed
  | setShortages shortages =>
    cases h
    have hsame : SameBooks s.bench { s.bench with shortages } := ⟨rfl, rfl, rfl, rfl, rfl⟩
    exact ⟨hsame.booked hb, nofun⟩
  | setUnarmed unarmed =>
    cases h
    have hsame : SameBooks s.bench { s.bench with unarmed } := ⟨rfl, rfl, rfl, rfl, rfl⟩
    exact ⟨hsame.booked hb, nofun⟩
  | setHindrances hindrances =>
    cases h
    exact ⟨hb, nofun⟩

theorem step_booked {x : Chore} {ending : ChoreEnd} (hb : s.bench.Booked base)
    (h : s.step undisturbed x = (ending, s')) :
    s'.bench.Booked base ∧ (ending.isFailure = true → SameUse s.bench s'.bench) := by
  unfold step at h
  split at h
  · next hallowed => exact perform_booked hb hallowed h
  · cases h
    exact ⟨hb, nofun⟩

/-! ## Whole scripts -/

/-- What holds at every moment of a script that began with `before`. -/
structure Balanced (before : Bench) (s : Circumstances) : Prop where
  /-- No descriptor is open that nobody needs, and none is missing. -/
  openCount : s.bench.table.openCount = before.table.openCount + s.bench.expected
  /-- A step that fails leaves as many open as there were. -/
  failures : ∀ x ending s', s.step undisturbed x = (ending, s') → ending.isFailure = true →
    s'.bench.table.openCount = s.bench.table.openCount
  /-- Once all pairs and engines are gone, nothing is left of them. -/
  allGone : (∀ pair, s.bench.isHeld pair = false) → s.bench.watchers = [] →
    s.bench.table.openCount = before.table.openCount
  /-- No descriptor serves two ends, two engines, or an end and an engine. -/
  distinct : (s.bench.endNumbers ++ s.bench.ownNumbers).Nodup

theorem expected_eq_zero {b : Bench} (hpairs : ∀ pair, b.isHeld pair = false)
    (hengines : b.watchers = []) : b.expected = 0 := by
  have htenants : b.tenants = [] := by
    rw [tenants, hengines]
    rfl
  have hheld : b.isHeld = fun _ => false := funext hpairs
  have hlisted : b.isListed = fun _ => false := by
    funext pair
    rw [isListed, htenants]
    rfl
  rw [expected, hheld, hlisted, htenants]
  simp only [countPairs, Bool.or_self, List.filter_false, List.length_nil, List.map_nil,
    List.foldr_nil, Nat.add_zero]

/-- **Scripts leak no descriptors.** Exactly the numbers `base` are open to begin with, and there
is neither a pair nor an engine; the script is any sequence of steps, in any surroundings. -/
theorem balanced_run (table : DescriptorTable) (base : List Nat) (hbase : table.Accounts base)
    (script : List Chore) :
    Balanced { table } (run undisturbed { bench := { table } } script) := by
  have hb : (run undisturbed { bench := { table } } script).bench.Booked base :=
    run_keeps (fun _ _ hs hallowed => (perform_booked hs hallowed rfl).1) (booked_start hbase)
      script
  have hcount : (run undisturbed { bench := { table } } script).bench.table.openCount =
      table.openCount + (run undisturbed { bench := { table } } script).bench.expected := by
    rw [hb.openCount_eq, hbase.openCount_eq]
  refine ⟨hcount, ?_, ?_, ?_⟩
  · intro x ending s' hstep hfailed
    -- both moments are told by the books, and the use has not changed
    obtain ⟨hb', hsame⟩ := step_booked hb hstep
    rw [hb'.openCount_eq, (hsame hfailed).expected_eq hb, hb.openCount_eq]
  · intro hpairs hengines
    rw [hcount, expected_eq_zero hpairs hengines]
    rfl
  · have hnodup := hb.numbers.nodup
    rw [← List.append_assoc] at hnodup
    exact List.Nodup.of_append_left hnodup

/-- Engines of several backends share two pairs; three creations fail, one of them for a reason that
the bench does not know, and all goes in the end. -/
theorem balanced_run_mixed :
    let p : Plan := ⟨.epoll, 1, 1, 4, false, usualDuration, by decide, by decide, by decide,
      by decide, by decide⟩
    let script : List Chore := [.openPairs 2, .create .epoll p [0, 1],
      .createFleet .poll p 2 [1, 1], .dropPair 1, .create .epoll p [0, 0],
      .setHindrances [some ⟨4, 0, "failed to start worker thread", .errno 11⟩],
      .create .poll p [0],
      .grant (some 1), .createFleet .select p 2 [0], .destroy .epoll ⟨0, 1⟩, .dropPair 0,
      .destroyFleet .poll [⟨1, 1⟩, ⟨2, 1⟩]]
    let after (n : Nat) : Circumstances :=
      run undisturbed { bench := { table := .initial } } (script.take n)
    (List.range 13).map (fun n => (after n).bench.table.openCount) =
        [3, 7, 9, 11, 10, 10, 10, 10, 10, 10, 8, 6, 3] ∧
      DescriptorTable.initial.Accounts [0, 1, 2] ∧
      ∀ n, Balanced { table := .initial } (after n) := by
  intro p script after
  refine ⟨by decide, DescriptorTable.initial_accounts, fun n => ?_⟩
  exact balanced_run .initial [0, 1, 2] DescriptorTable.initial_accounts (script.take n)

end Circumstances

end ReadinessBench

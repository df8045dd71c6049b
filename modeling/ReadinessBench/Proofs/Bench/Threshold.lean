import ReadinessBench.Proofs.Bench.Budget
import ReadinessBench.Proofs.Fleet.AllOrNothing

/-!
# How many descriptors a run needs

A run needs two descriptors for every pair and the footprint of its mechanism for every engine. If
no more can be opened, its setup fails, and where it fails is told by how many could be opened: at
a pair, or at an engine and there at one of its own descriptors. Main statement:
`exact_threshold`.
-/

namespace ReadinessBench

open DescriptorTable (refusal)

/-- The creations that have been attempted. -/
def Deed.attempts (deeds : List Deed) : List (Except BenchError EngineHandle) :=
  deeds.filterMap fun
    | .created outcome => some outcome
    | .journalled _ | .destroyed _ => none

/-- How many descriptors the setup of a run opens. -/
def Plan.descriptors (p : Plan) : Nat := 2 * p.pairs + p.engines * p.mechanism.footprint

theorem Deed.attempts_append (before after : List Deed) :
    attempts (before ++ after) = attempts before ++ attempts after :=
  List.filterMap_append

theorem Backend.attempts_creations {State : Type} (k : Backend State) (p : Plan)
    (pairs : List Nat) (s : State) (n : Nat) :
    Deed.attempts (k.creations p pairs s n) = (List.range n).map (k.outcome p pairs s) := by
  rw [Deed.attempts, creations, List.filterMap_map]
  exact congrFun List.filterMap_eq_map _

namespace Fleet

variable {State : Type} {k : Backend State} {p : Plan} {pairs : List Nat} {s : State}
  {made : List EngineHandle} {count i : Nat} {e : BenchError}

theorem create_observed_of_made (deeds : List Deed) (hroom : isReservable count = true)
    (h : (List.range count).map (k.outcome p pairs s) = made.map .ok) :
    ∃ deeds', create k.observed p count pairs ⟨s, deeds⟩ =
      .ok (.ok made, ⟨k.after p pairs s count, deeds'⟩) := by
  have hwatched : k.observed.outcome p pairs ⟨s, deeds⟩ = k.outcome p pairs s :=
    funext Backend.outcome_observed
  have hcreate := create_of_made hroom (hwatched.symm ▸ h)
  rw [Backend.after_observed] at hcreate
  exact ⟨_, hcreate⟩

/-- When a creation fails, all creations up to it have been attempted and no other. -/
theorem create_observed_of_failed (deeds : List Deed) (hroom : isReservable count = true)
    (hi : i < count) (h : (List.range i).map (k.outcome p pairs s) = made.map .ok)
    (he : k.outcome p pairs s i = .error e) :
    ∃ deeds', create k.observed p count pairs ⟨s, deeds⟩ =
        .ok (.error e, ⟨k.destroyAll made.reverse
          (k.record (.creationRolledBack k.name i i e) (k.after p pairs s (i + 1))), deeds'⟩) ∧
      Deed.attempts deeds' = Deed.attempts deeds ++ (made.map .ok ++ [.error e]) := by
  have hwatched : k.observed.outcome p pairs ⟨s, deeds⟩ = k.outcome p pairs s :=
    funext Backend.outcome_observed
  have hcreate := create_of_failed hroom hi (hwatched.symm ▸ h)
    ((Backend.outcome_observed i).trans he)
  rw [Backend.after_observed, Backend.record_observed, Backend.destroyAll_observed] at hcreate
  refine ⟨_, hcreate, ?_⟩
  have hdestroyed : Deed.attempts (made.reverse.map .destroyed) = [] := by
    rw [Deed.attempts, List.filterMap_map, List.filterMap_eq_nil_iff]
    exact fun _ _ => rfl
  rw [Deed.attempts_append, Deed.attempts_append, Deed.attempts_append, hdestroyed,
    Backend.attempts_creations, List.range_succ, List.map_append, h, List.map_singleton, he]
  simp [Deed.attempts]

end Fleet

namespace Bench

variable {b b' : Bench} {base : List Nat} {left n : Nat} {p : Plan} {m : Mechanism}

theorem openPairs_of_budget (hb : b.Booked base) (hleft : b.table.budget = some left)
    (hfit : 2 * n ≤ left) (hnumbers : ∀ i < 2 * n, b.table.freeNumber i < selectCapacity) :
    ∃ pairs b', b.openPairs n = (.ok pairs, b') ∧ pairs.length = n ∧
      b'.table = b.table.afterOpening (2 * n) ∧ (b.IsAmple → b'.IsAmple) ∧
      (pairs.map b'.watchedOf).map Watched.number =
        (List.range n).map fun i => b.table.freeNumber (2 * i) := by
  obtain ⟨pairs, b', hopen⟩ :=
    exists_openMore [] hleft (fun i hi => (hnumbers i hi).trans (by decide)) hfit
  exact ⟨pairs, b', hopen, openPairs_numbers hb hopen⟩

/-- That many different numbers below the capacity of a descriptor set leave room for their poll
slots. -/
theorem two_mul_le_capacity (hb : b.Booked base)
    (hnumbers : ∀ i < 2 * n, b.table.freeNumber i < selectCapacity) : 2 * n ≤ selectCapacity := by
  have hdistinct : ((List.range (2 * n)).map b.table.freeNumber).Nodup :=
    List.nodup_range.map hb.numbers.freeNumber_injective
  have hbelow : (List.range (2 * n)).map b.table.freeNumber ⊆ List.range selectCapacity := by
    intro x hx
    obtain ⟨i, hi, rfl⟩ := List.mem_map.mp hx
    exact List.mem_range.mpr (hnumbers i (List.mem_range.mp hi))
  have hle := (List.subperm_of_subset hdistinct hbelow).length_le
  rwa [List.length_map, List.length_range, List.length_range] at hle

theorem granted_of_paired {pairs : List Nat} {table : DescriptorTable}
    (hmemory : Buffer.refusal? p.messageSize = none) (haccounts : ∃ numbers, table.Accounts numbers)
    (hcount : pairs.length = p.pairs) (hfit : 2 * p.pairs ≤ selectCapacity)
    (hnumbers : ∀ i < 2 * p.pairs, table.freeNumber i < selectCapacity)
    (hwatched : (pairs.map b.watchedOf).map Watched.number =
      (List.range p.pairs).map fun i => table.freeNumber (2 * i)) :
    (request p.mechanism p pairs b).Granted where
  exclusive h := p.mechanism.supportsExclusive_eq ▸ p.exclusive_supported h
  memory := hmemory
  slots := by
    have hcapacity : selectCapacity = 1024 := rfl
    have hlength : (request p.mechanism p pairs b).watched.length = p.pairs := by
      rw [request, List.length_map, hcount]
    have hbytes : bytesPerSlot * (p.pairs + 1) < Buffer.memoryLimit := by
      rw [bytesPerSlot, Buffer.memoryLimit]
      omega
    have hlimits : Buffer.memoryLimit ≤ Buffer.sizeLimit := by decide
    rw [hlength, Buffer.refusal?, if_neg (by omega), if_neg (by omega)]
  distinct := by
    obtain ⟨numbers, haccounts⟩ := haccounts
    show ((pairs.map b.watchedOf).map Watched.number).Nodup
    rw [hwatched]
    refine List.nodup_range.map fun i j hij => ?_
    have := haccounts.freeNumber_injective hij
    omega
  selectable := by
    intro w hw
    have hmem := List.mem_map_of_mem (f := Watched.number) hw
    change w.number ∈ (pairs.map b.watchedOf).map Watched.number at hmem
    rw [hwatched, List.mem_map] at hmem
    obtain ⟨i, hi, hnumber⟩ := hmem
    rw [← hnumber]
    have hlt := List.mem_range.mp hi
    exact hnumbers _ (by omega)

theorem prepare_of_ample {size : Nat} (hb : b.IsAmple) (hn : n ≠ 0) (hsize : size ≠ 0)
    (hmemory : Buffer.refusal? size = none) :
    ∃ workload b', b.prepare n size = (.ok workload, b') ∧ b'.IsAmple ∧ b'.table = b.table := by
  obtain ⟨hgiven, hrest⟩ := hb.allocate hmemory
  have hsame := SameBooks.allocate b size
  rw [prepare, if_neg hn, if_neg hsize]
  cases hasked : b.allocate size with
  | mk refused next =>
    rw [hasked] at hgiven hsame hrest
    cases hgiven
    exact ⟨_, next, rfl, hrest, hsame.table⟩

/-- What becomes of the setup of a run that may open so many more descriptors. -/
structure Threshold (p : Plan) (before : Bench) (budget : Nat) (result : Except BenchError Underway)
    (final : Observed Bench) : Prop where
  succeeds : (∃ u, result = .ok u) ↔ p.descriptors ≤ budget
  opened : ∀ u, result = .ok u →
    final.state.table.openCount = before.table.openCount + p.descriptors
  /-- Without the pairs no engine is attempted. -/
  atPairs : budget < 2 * p.pairs →
    result = .error (.resource "socketpair failed" refusal) ∧ Deed.attempts final.deeds = []
  /-- The engine that fails is the one after those whose descriptors could all be opened. -/
  atEngine : 2 * p.pairs ≤ budget → budget < p.descriptors →
    ∃ made : List EngineHandle,
      made.length = (budget - 2 * p.pairs) / p.mechanism.footprint ∧
      let e := BenchError.resource
        (p.mechanism.missing ((budget - 2 * p.pairs) % p.mechanism.footprint)) refusal
      result = .error e ∧ Deed.attempts final.deeds = made.map .ok ++ [.error e]
  restored : ∀ e, result = .error e → final.state.table.openCount = before.table.openCount
  moments : Relation.ReflTransGen
    (fun t t' => DescriptorTable.Call t t' ∧ t'.openCount ≤ before.table.openCount + budget)
    before.table final.state.table

theorem SameUse.openCount_eq (h : SameUse b b') (hb : b.Booked base) (hb' : b'.Booked base) :
    b'.table.openCount = b.table.openCount := by
  rw [hb'.openCount_eq, h.expected_eq hb, hb.openCount_eq]

/-! ## The three ways in which a setup may end -/

section Endings

variable {budget : Nat}

theorem begin_at_pairs (hb : b.Booked base) (hbudget : b.table.budget = some budget)
    (hnumbers : ∀ i < budget, b.table.freeNumber i < selectCapacity)
    (hspent : budget < 2 * p.pairs) :
    ∃ final : Observed Bench,
      m.backend.observed.begin p ⟨b, []⟩ =
        .ok (.error (.resource "socketpair failed" refusal), final) ∧
      m.backend.begin p b = .ok (.error (.resource "socketpair failed" refusal), final.state) ∧
      Deed.attempts final.deeds = [] ∧ SameUse b final.state := by
  let start := b.record (.runStarting m.backend.name p)
  have herror : (start.openPairs p.pairs).1 = .error (.resource "socketpair failed" refusal) :=
    openMore_of_spent [] hbudget (fun i hi => (hnumbers i hi).trans (by decide)) hspent
  cases hpairs : start.openPairs p.pairs with
  | mk result b' =>
    rw [hpairs] at herror
    cases herror
    have hsame : SameUse start b' := ((SameBooks.record b _).booked hb).openPairs_error hpairs
    exact ⟨_, Backend.begin_of_begun (.noPairs hpairs),
      Backend.begin_of_begun (.noPairs hpairs), rfl, ⟨hsame.isHeld, hsame.tenants, hsame.size_le⟩⟩

/-- The pairs can be opened, and there is everything for the engines but, perhaps, descriptors. -/
theorem paired_of_budget (hb : b.Booked base) (hbudget : b.table.budget = some budget)
    (hfit : 2 * p.pairs ≤ budget) (hmemory : Buffer.refusal? p.messageSize = none)
    (hample : b.IsAmple) (hnumbers : ∀ i < 2 * p.pairs, b.table.freeNumber i < selectCapacity) :
    ∃ pairs paired, b.openPairs p.pairs = (.ok pairs, paired) ∧ pairs.length = p.pairs ∧
      paired.IsAmple ∧ paired.table = b.table.afterOpening (2 * p.pairs) ∧
      (request p.mechanism p pairs paired).Granted := by
  obtain ⟨pairs, paired, hpairs, hcount, htable, hkeeps, hwatched⟩ :=
    openPairs_of_budget hb hbudget hfit hnumbers
  refine ⟨pairs, paired, hpairs, hcount, hkeeps hample, htable, ?_⟩
  exact granted_of_paired hmemory ⟨_, hb.numbers⟩ hcount (two_mul_le_capacity hb hnumbers)
      hnumbers hwatched

theorem begin_at_engine (hb : b.Booked base) (hbudget : b.table.budget = some budget)
    (hengines : Fleet.isReservable p.engines = true)
    (hmemory : Buffer.refusal? p.messageSize = none) (hample : b.IsAmple)
    (hnumbers : ∀ i < budget, b.table.freeNumber i < selectCapacity)
    (hfit : 2 * p.pairs ≤ budget) (hspent : budget < p.descriptors) :
    ∃ (final : Observed Bench) (made : List EngineHandle),
      let e := BenchError.resource
        (p.mechanism.missing ((budget - 2 * p.pairs) % p.mechanism.footprint)) refusal
      p.mechanism.backend.observed.begin p ⟨b, []⟩ = .ok (.error e, final) ∧
      p.mechanism.backend.begin p b = .ok (.error e, final.state) ∧
      made.length = (budget - 2 * p.pairs) / p.mechanism.footprint ∧
      Deed.attempts final.deeds = made.map .ok ++ [.error e] ∧ SameUse b final.state := by
  let k := p.mechanism.backend
  let start := b.record (.runStarting k.name p)
  have hstart : start.Booked base := (SameBooks.record b _).booked hb
  obtain ⟨pairs, paired, hpairs, hcount, hpaired, htable, hgranted⟩ :=
    paired_of_budget hstart hbudget hfit hmemory hample fun i hi => hnumbers i (by omega)
  have hleft : paired.table.budget = some (budget - 2 * p.pairs) := by
    rw [htable]
    exact DescriptorTable.budget_afterOpening hbudget _
  have hfree : ∀ i < budget - 2 * p.pairs, paired.table.freeNumber i < selectCapacity :=
    DescriptorTable.below_afterOpening htable fun i hi => hnumbers i (by omega)
  have hneed : p.descriptors = 2 * p.pairs + p.engines * p.mechanism.footprint := rfl
  have hfootprint : 0 < p.mechanism.footprint := by
    rcases Nat.eq_zero_or_pos p.mechanism.footprint with hzero | hpos
    · rw [hzero, Nat.mul_zero] at hneed
      omega
    · exact hpos
  have hindex : (budget - 2 * p.pairs) / p.mechanism.footprint < p.engines :=
    (Nat.div_lt_iff_lt_mul hfootprint).mpr (by omega)
  obtain ⟨hmade, -⟩ := after_of_budget hgranted hpaired hleft _ (Nat.div_mul_le_self _ _)
    fun i hi => hfree i (hi.trans_le (Nat.div_mul_le_self _ _))
  -- as many engines are made as the rest of the budget is enough for, and the next one fails
  have hfailed := outcome_of_spent hgranted hpaired hleft hfootprint hfree
  obtain ⟨made, hmade⟩ := Backend.exists_made hmade
  have hcreate := Fleet.create_of_failed hengines hindex hmade hfailed
  obtain ⟨deeds, hwatched, hattempts⟩ := Fleet.create_observed_of_failed
    (k.observed.setBench paired (k.observed.record (.runStarting k.name p) ⟨b, []⟩)).deeds
    hengines hindex hmade hfailed
  have hopened : paired.Booked base := hstart.of_openPairs hpairs
  have hsame := hstart.openPairs_undone hpairs (Fleet.create_error p.mechanism.onBench hopened
    (hstart.isHeld_openPairs hpairs) hcreate)
  refine ⟨_, made, Backend.begin_of_begun (.noEngines hpairs hwatched),
    Backend.begin_of_begun (.noEngines hpairs hcreate), Fleet.length_eq_of_made hmade, ?_,
    ⟨hsame.isHeld, hsame.tenants, hsame.size_le⟩⟩
  show Deed.attempts (deeds ++ [_]) = _
  rw [Deed.attempts_append, hattempts]
  exact List.append_nil _

theorem begin_within (hb : b.Booked base) (hbudget : b.table.budget = some budget)
    (hengines : Fleet.isReservable p.engines = true)
    (hmemory : Buffer.refusal? p.messageSize = none) (hample : b.IsAmple)
    (hnumbers : ∀ i < p.descriptors, b.table.freeNumber i < selectCapacity)
    (hfit : p.descriptors ≤ budget) :
    ∃ (final : Observed Bench) (u : Underway),
      p.mechanism.backend.observed.begin p ⟨b, []⟩ = .ok (.ok u, final) ∧
      p.mechanism.backend.begin p b = .ok (.ok u, final.state) ∧
      final.state.table = b.table.afterOpening p.descriptors := by
  let k := p.mechanism.backend
  let start := b.record (.runStarting k.name p)
  have hstart : start.Booked base := (SameBooks.record b _).booked hb
  have hneed : p.descriptors = 2 * p.pairs + p.engines * p.mechanism.footprint := rfl
  obtain ⟨pairs, paired, hpairs, hcount, hpaired, htable, hgranted⟩ :=
    paired_of_budget hstart hbudget (by omega) hmemory hample fun i hi => hnumbers i (by omega)
  have hleft : paired.table.budget = some (budget - 2 * p.pairs) := by
    rw [htable]
    exact DescriptorTable.budget_afterOpening hbudget _
  obtain ⟨hmade, hstaffed, htable', -⟩ :=
    after_of_budget hgranted hpaired hleft p.engines (by omega)
      (DescriptorTable.below_afterOpening htable fun i hi => hnumbers i (by omega))
  obtain ⟨made, hmade⟩ := Backend.exists_made hmade
  have hcreate := Fleet.create_of_made hengines hmade
  obtain ⟨deeds, hwatched⟩ := Fleet.create_observed_of_made
    (k.observed.setBench paired (k.observed.record (.runStarting k.name p) ⟨b, []⟩)).deeds
    hengines hmade
  obtain ⟨workload, ready, hworkload, hready, hsame⟩ :=
    prepare_of_ample (n := pairs.length) hstaffed (hcount ▸ p.pairs_pos) p.messageSize_pos hmemory
  have htimer : ready.arm = (none, ready.arm.2) := Prod.ext hready.arm rfl
  refine ⟨_, _, Backend.begin_of_begun (.ready hpairs hwatched hworkload htimer),
    Backend.begin_of_begun (.ready hpairs hcreate hworkload htimer), ?_⟩
  show ready.table = _
  rw [hsame, htable', htable, DescriptorTable.afterOpening_afterOpening]
  rfl

end Endings

/-- **The setup of a run succeeds exactly if its budget is enough.** Memory is no matter, the timer
can be armed, and the numbers that are given out fit into a descriptor set. -/
theorem exact_threshold (p : Plan) (b : Bench) (base : List Nat) (budget : Nat)
    (hb : b.Booked base) (hbudget : b.table.budget = some budget)
    (hengines : Fleet.isReservable p.engines = true)
    (hmemory : Buffer.refusal? p.messageSize = none) (hample : b.IsAmple)
    (hnumbers : ∀ i < budget, i < p.descriptors → b.table.freeNumber i < selectCapacity) :
    ∃ result final, p.mechanism.backend.observed.begin p ⟨b, []⟩ = .ok (result, final) ∧
      p.mechanism.backend.begin p b = .ok (result, final.state) ∧
      (∀ e, result = .error e → ∀ draw patience,
        p.mechanism.backend.run p draw patience b = .ok (.error e, final.state)) ∧
      Threshold p b budget result final := by
  have hmoments : ∀ result b', p.mechanism.backend.begin p b = .ok (result, b') →
      Relation.ReflTransGen
        (fun t t' => DescriptorTable.Call t t' ∧ t'.openCount ≤ b.table.openCount + budget)
        b.table b'.table :=
    fun _ _ hbegin => (hb.begin hbegin).calls.within_budget hb.numbers hbudget
  have hrun : ∀ result b', p.mechanism.backend.begin p b = .ok (result, b') →
      ∀ e, result = .error e → ∀ draw patience,
        p.mechanism.backend.run p draw patience b = .ok (.error e, b') := by
    intro result b' hbegin e he draw patience
    simp only [Backend.run, hbegin, he]
  have hneed : p.descriptors = 2 * p.pairs + p.engines * p.mechanism.footprint := rfl
  by_cases hspent : budget < p.descriptors
  · have hfree : ∀ i < budget, b.table.freeNumber i < selectCapacity :=
      fun i hi => hnumbers i hi (by omega)
    have hfailed : ∀ (e : BenchError) (final : Observed Bench),
        p.mechanism.backend.begin p b = .ok (.error e, final.state) → SameUse b final.state →
        final.state.table.openCount = b.table.openCount :=
      fun _ _ hbegin hsame => hsame.openCount_eq hb (hb.begin hbegin).booked
    by_cases hpairs : budget < 2 * p.pairs
    · obtain ⟨final, hwatched, hbegin, hattempts, hsame⟩ :=
        begin_at_pairs (p := p) (m := p.mechanism) hb hbudget hfree hpairs
      refine ⟨_, final, hwatched, hbegin, hrun _ _ hbegin,
        ⟨?_, nofun, fun _ => ⟨rfl, hattempts⟩, ?_, ?_, ?_⟩⟩
      · exact ⟨nofun, fun hfit => absurd hfit (by omega)⟩
      · exact fun hfit => absurd hfit (by omega)
      · exact fun _ _ => hfailed _ _ hbegin hsame
      · exact hmoments _ _ hbegin
    · obtain ⟨final, made, hwatched, hbegin, hcount, hattempts, hsame⟩ :=
        begin_at_engine hb hbudget hengines hmemory hample hfree (by omega) hspent
      refine ⟨_, final, hwatched, hbegin, hrun _ _ hbegin, ⟨?_, nofun, ?_, ?_, ?_, ?_⟩⟩
      · exact ⟨nofun, fun hfit => absurd hfit (by omega)⟩
      · exact fun hshort => absurd hshort hpairs
      · exact fun _ _ => ⟨made, hcount, rfl, hattempts⟩
      · exact fun _ _ => hfailed _ _ hbegin hsame
      · exact hmoments _ _ hbegin
  · obtain ⟨final, u, hwatched, hbegin, htable⟩ := begin_within hb hbudget hengines hmemory hample
      (fun i hi => hnumbers i (by omega) hi) (by omega)
    refine ⟨_, final, hwatched, hbegin, hrun _ _ hbegin, ⟨?_, ?_, ?_, ?_, nofun, ?_⟩⟩
    · exact ⟨fun _ => by omega, fun _ => ⟨u, rfl⟩⟩
    · intro _ _
      -- what is open and what may still be opened add up to what they did before
      have hleft := DescriptorTable.budget_afterOpening hbudget p.descriptors
      rw [← htable] at hleft
      obtain ⟨_, left, -, hleft', hsum⟩ := (hb.begin hbegin).calls.budget hb.numbers hbudget
      rw [hleft, Option.some.injEq] at hleft'
      omega
    · exact fun hshort => by omega
    · exact fun _ hshort => absurd hshort hspent
    · exact hmoments _ _ hbegin

/-- Seven descriptors are enough for two pairs and one epoll engine; of the next engine the epoll
descriptor can still be opened, but not the one of its stop request. -/
theorem exact_threshold_second_engine :
    let p : Plan := ⟨.epoll, 3, 2, 1, false, usualDuration, by decide, by decide, by decide,
      by decide, by decide⟩
    let b : Bench := { table := { DescriptorTable.initial with budget := some 7 } }
    let e : BenchError := .resource "eventfd creation failed" refusal
    Booked [0, 1, 2] b ∧ Fleet.isReservable p.engines = true ∧
      Buffer.refusal? p.messageSize = none ∧ b.IsAmple ∧
      (∀ i < 7, i < p.descriptors → b.table.freeNumber i < selectCapacity) ∧
      ∃ (final : Observed Bench) (made : List EngineHandle),
        p.mechanism.backend.begin p b = .ok (.error e, final.state) ∧ made.length = 1 ∧
          Deed.attempts final.deeds = made.map .ok ++ [.error e] ∧
          final.state.table.openCount = 3 := by
  intro p b e
  have hb : Booked [0, 1, 2] b := booked_start (List.Perm.refl _)
  have hnumbers : ∀ i < 7, i < p.descriptors → b.table.freeNumber i < selectCapacity := by
    have hlow : ∀ i < 7, b.table.freeNumber i < selectCapacity := by decide
    exact fun i hi _ => hlow i hi
  refine ⟨hb, by decide, by decide, ⟨nofun, nofun⟩, hnumbers, ?_⟩
  obtain ⟨result, final, -, hbegin, -, hthreshold⟩ :=
    exact_threshold p b [0, 1, 2] 7 hb rfl (by decide) (by decide) ⟨nofun, nofun⟩ hnumbers
  obtain ⟨made, hcount, hresult, hattempts⟩ := hthreshold.atEngine (by decide) (by decide)
  have hindex : (7 - 2 * p.pairs) / p.mechanism.footprint = 1 := by decide
  have hmissing : p.mechanism.missing ((7 - 2 * p.pairs) % p.mechanism.footprint) =
      "eventfd creation failed" := by decide
  rw [hmissing] at hresult hattempts
  rw [hresult] at hbegin
  exact ⟨final, made, hbegin, hcount.trans hindex, hattempts, hthreshold.restored _ hresult⟩

end Bench

end ReadinessBench

import ReadinessBench.Proofs.Bench.Moments
import ReadinessBench.Proofs.Fleet.Observed

/-!
# What a budget is enough for

Pairs and engines opened by a process that lacks nothing but descriptors: as long as the budget
lasts they get the lowest free numbers, and the first descriptor beyond it cannot be opened.
-/

namespace ReadinessBench

open DescriptorTable (refusal numberLimit)

/-- Says what failed if this step could not open its descriptor. -/
def SetupStep.context? : SetupStep → Option String
  | .descriptor context => some context
  | _ => none

/-- What cannot be opened when an engine has opened so many descriptors before. -/
def Mechanism.missing : Mechanism → Nat → String
  | .epoll, 0 => "epoll_create1 failed"
  | .ioUring, 0 => "io_uring_queue_init failed (do you need to increase ulimit -l?)"
  | _, _ => stopContext

theorem Mechanism.contexts_setup (m : Mechanism) :
    m.setup.filterMap SetupStep.context? = (List.range m.footprint).map m.missing := by
  cases m <;> rfl

/-- The request lacks nothing but descriptors. -/
structure EngineRequest.Granted (r : EngineRequest) : Prop where
  exclusive : r.exclusive = true → r.mechanism.wakesOne = true
  memory : Buffer.refusal? r.messageSize = none
  slots : Buffer.refusal? (bytesPerSlot * (r.watched.length + 1)) = none
  distinct : (r.watched.map Watched.number).Nodup
  selectable : ∀ w ∈ r.watched, w.number < selectCapacity

namespace Bench

variable {b b' : Bench} {base : List Nat} {left n : Nat} {r : EngineRequest}

/-- The allocator has nothing against the coming requests as such, and timers can be armed. -/
def IsAmple (b : Bench) : Prop :=
  (∀ shortage ∈ b.shortages, shortage = none) ∧ ∀ refusal ∈ b.unarmed, refusal = none

theorem IsAmple.allocate {size : Nat} (h : b.IsAmple) (hsize : Buffer.refusal? size = none) :
    (b.allocate size).1 = none ∧ (b.allocate size).2.IsAmple := by
  unfold Bench.allocate
  split
  · exact ⟨hsize, h⟩
  · rename_i shortage rest hshortages
    rw [IsAmple, hshortages] at h
    refine ⟨?_, fun s hs => h.1 s (List.mem_cons_of_mem _ hs), h.2⟩
    rw [h.1 shortage List.mem_cons_self, hsize]
    rfl

theorem IsAmple.arm (h : b.IsAmple) : b.arm.1 = none := by
  rw [Bench.arm]
  cases hunarmed : b.unarmed with
  | nil => rfl
  | cons refusal rest =>
    rw [h.2 refusal (by rw [hunarmed]; exact List.mem_cons_self)]
    rfl

theorem IsAmple.allocateEach {size : Nat} (h : b.IsAmple) (hsize : Buffer.refusal? size = none)
    (n : Nat) : (b.allocateEach size n).1 = none ∧ (b.allocateEach size n).2.IsAmple := by
  induction n generalizing b with
  | zero => exact ⟨rfl, h⟩
  | succ n ih =>
    obtain ⟨hfirst, hnext⟩ := h.allocate hsize
    cases hasked : b.allocate size with
    | mk refused next =>
      rw [hasked] at hfirst hnext
      cases hfirst
      simp only [Bench.allocateEach, hasked]
      exact ih hnext

/-! ## Pairs -/

/-- The engines' ends of pairs that have been opened have every second one of the free numbers. -/
theorem openMore_numbers {made pairs : List Nat} (hpaired : b.sockets.size = b.holdings.size)
    (h : openMore made n b = (.ok pairs, b')) :
    b'.table = b.table.afterOpening (2 * n) ∧ (b.IsAmple → b'.IsAmple) ∧
      (∀ q < b.holdings.size, b'.holdings[q]? = b.holdings[q]?) ∧
      ∀ i < n, b'.holdings[b.holdings.size + i]?.map Holding.engineNumber =
        some (b.table.freeNumber (2 * i)) := by
  induction n generalizing b made with
  | zero =>
    cases h
    refine ⟨?_, id, fun _ _ => rfl, nofun⟩
    rw [Nat.mul_zero, DescriptorTable.afterOpening_zero]
    rfl
  | succ n ih =>
    rw [openMore] at h
    split at h
    · rename_i hopen
      rw [DescriptorTable.openTwo_of_allows (DescriptorTable.allows_of_openTwo hopen)] at hopen
      cases hopen
      let next := b.addPair (b.table.freeNumber 0) (b.table.freeNumber 1) (b.table.afterOpening 2)
      have hsize : next.holdings.size = b.holdings.size + 1 := Array.size_push _
      obtain ⟨htable, hample, hsame, hnew⟩ :=
        ih (b := next) (by rw [hsize, ← hpaired]; exact Array.size_push _) h
      refine ⟨?_, hample, ?_, ?_⟩
      · rw [htable, Nat.mul_succ, Nat.add_comm]
        exact DescriptorTable.afterOpening_afterOpening b.table 2 (2 * n)
      · intro q hq
        rw [hsame q (by omega)]
        show (b.holdings.push _)[q]? = _
        rw [Array.getElem?_push, if_neg (by omega)]
      · intro i hi
        -- the first pair keeps its numbers while the others are opened
        cases i with
        | zero =>
          rw [Nat.add_zero, hsame _ (by omega)]
          have hlast : next.holdings[b.holdings.size]? = some
              { generatorNumber := b.table.freeNumber 1, engineNumber := b.table.freeNumber 0 } :=
            Array.getElem?_push_size
          rw [hlast]
          rfl
        | succ i =>
          have hearlier := hnew i (by omega)
          rw [hsize, Nat.add_assoc, Nat.add_comm 1 i] at hearlier
          rw [hearlier, show next.table = b.table.afterOpening 2 from rfl,
            DescriptorTable.freeNumber_afterOpening, Nat.mul_succ, Nat.add_comm]
    · cases h

theorem exists_openMore (made : List Nat) (hleft : b.table.budget = some left)
    (hnumbers : ∀ i < 2 * n, b.table.freeNumber i < numberLimit) (hfit : 2 * n ≤ left) :
    ∃ pairs b', openMore made n b = (.ok pairs, b') := by
  induction n generalizing b made left with
  | zero => exact ⟨made.reverse, _, rfl⟩
  | succ n ih =>
    have hopen := DescriptorTable.openTwo_of_budget hleft (by omega) (hnumbers 1 (by omega))
    rw [openMore, hopen]
    exact ih _ (DescriptorTable.budget_afterOpening hleft 2)
      (DescriptorTable.below_afterOpening rfl fun i hi => hnumbers i (by omega)) (by omega)

theorem openPairs_numbers {pairs : List Nat} (hb : b.Booked base)
    (h : b.openPairs n = (.ok pairs, b')) :
    pairs.length = n ∧ b'.table = b.table.afterOpening (2 * n) ∧ (b.IsAmple → b'.IsAmple) ∧
      (pairs.map b'.watchedOf).map Watched.number =
        (List.range n).map fun i => b.table.freeNumber (2 * i) := by
  obtain ⟨htable, hample, -, hnew⟩ := openMore_numbers hb.paired h
  obtain ⟨rfl, -, -, -⟩ := hb.openPairs_ok h
  refine ⟨List.length_range', htable, hample, ?_⟩
  rw [List.range'_eq_map_range, List.map_map, List.map_map]
  apply List.map_congr_left
  intro i hi
  have hnumber := hnew i (List.mem_range.mp hi)
  show (b'.holdings[b.holdings.size + i]?.map Holding.engineNumber).getD 0 = _
  rw [hnumber]
  rfl

theorem openMore_of_spent (made : List Nat) (hleft : b.table.budget = some left)
    (hnumbers : ∀ i < left, b.table.freeNumber i < numberLimit) (hspent : left < 2 * n) :
    (openMore made n b).1 = .error (.resource "socketpair failed" refusal) := by
  induction n generalizing b made left with
  | zero => omega
  | succ n ih =>
    by_cases henough : left < 2
    · rw [openMore, DescriptorTable.openTwo_of_spent hleft henough]
    · have hopen := DescriptorTable.openTwo_of_budget hleft (by omega) (hnumbers 1 (by omega))
      rw [openMore, hopen]
      exact ih _ (DescriptorTable.budget_afterOpening hleft 2)
        (DescriptorTable.below_afterOpening rfl fun i hi => hnumbers i (by omega)) (by omega)

/-! ## Engines -/

theorem granted_of_none {context : String} {asked : Option Failure × Bench} (h : asked.1 = none) :
    EngineRequest.granted context asked = (.ok [], asked.2) := by
  obtain ⟨refused, next⟩ := asked
  cases h
  rfl

/-- A step that opens nothing succeeds if nothing is lacking. -/
theorem perform_of_granted {opened : List Nat} {step : SetupStep} (hr : r.Granted)
    (hb : b.IsAmple) (hopened : ∀ x ∈ opened, x < selectCapacity)
    (hstep : step.context? = none) :
    ∃ b', r.perform opened b step = (.ok [], b') ∧ SameBooks b b' ∧ b'.IsAmple := by
  cases step with
  | checkExclusive =>
    refine ⟨b, ?_, SameBooks.refl b, hb⟩
    have hsupported := hr.exclusive
    simp only [EngineRequest.perform]
    rw [if_neg]
    simpa using hsupported
  | blockReads =>
    refine ⟨_, rfl, updateAll_same r.watched _, ?_⟩
    have hkeep := foldl_keeps IsAmple (fun b (w : Watched) =>
      (rfl : (b.updatePair w.pair .setBlocking).IsAmple = b.IsAmple)) b r.watched
    exact hkeep ▸ hb
  | checkSelectable =>
    refine ⟨b, ?_, SameBooks.refl b, hb⟩
    simp only [EngineRequest.perform, EngineRequest.checkSelectable_ok_iff.mpr hr.selectable]
    rfl
  | buffer =>
    obtain ⟨hgiven, hnext⟩ := hb.allocate hr.memory
    exact ⟨_, granted_of_none hgiven, SameBooks.allocate b _, hnext⟩
  | workers =>
    obtain ⟨hgiven, hnext⟩ := hb.allocateEach hr.memory r.watched.length
    refine ⟨_, ?_, SameBooks.allocateEach b _ _, hnext⟩
    simp only [EngineRequest.perform, granted_of_none hgiven]
  | slots =>
    obtain ⟨hgiven, hnext⟩ := hb.allocate hr.slots
    exact ⟨_, granted_of_none hgiven, SameBooks.allocate b _, hnext⟩
  | descriptor context => cases hstep
  | register context =>
    refine ⟨b, ?_, SameBooks.refl b, hb⟩
    simp only [EngineRequest.perform, (EpollLoop.registerAll_eq_ok_iff _).mpr hr.distinct]
  | checkLastSelectable =>
    refine ⟨b, ?_, SameBooks.refl b, hb⟩
    have hlast : ensureSelectable (opened.getLastD 0 : Nat) = .ok () := by
      apply ensureSelectable_natCast_iff.mpr
      rw [List.getLastD_eq_getLast?]
      cases hlast : opened.getLast? with
      | none => decide
      | some x => exact hopened x (List.mem_of_getLast? hlast)
    simp only [EngineRequest.perform, hlast]
    rfl

theorem perform_descriptor (r : EngineRequest) (opened : List Nat) {step : SetupStep}
    {context : String} (hstep : step.context? = some context) (hleft : b.table.budget = some left)
    (hnumber : 1 ≤ left → b.table.freeNumber 0 < numberLimit) :
    r.perform opened b step =
      if left = 0 then (.error (.resource context refusal), b)
      else (.ok [b.table.freeNumber 0], { b with table := b.table.afterOpening 1 }) := by
  cases step <;> cases hstep
  by_cases hspent : left = 0
  · subst hspent
    simp only [EngineRequest.perform, Bench.openOne, DescriptorTable.openOne_of_spent hleft,
      Except.map, if_true]
  · have hsome : 1 ≤ left := by omega
    simp only [EngineRequest.perform, Bench.openOne, Except.map,
      DescriptorTable.openOne_of_budget hleft hsome (hnumber hsome), if_neg hspent]

/-- The steps succeed as long as the budget lasts; the first descriptor beyond it is the one whose
step fails. -/
theorem performAll_of_budget (steps : List SetupStep) (opened : List Nat) (hr : r.Granted)
    (hb : b.IsAmple) (hleft : b.table.budget = some left)
    (hopened : ∀ x ∈ opened, x < selectCapacity)
    (hnumbers : ∀ i < left, i < (steps.filterMap SetupStep.context?).length →
      b.table.freeNumber i < selectCapacity) :
    ((steps.filterMap SetupStep.context?).length ≤ left →
      ∃ owned b', r.performAll opened b steps = (.ok owned, b') ∧ b'.IsAmple ∧
        b'.table = b.table.afterOpening (steps.filterMap SetupStep.context?).length) ∧
    ∀ context, (steps.filterMap SetupStep.context?)[left]? = some context →
      (r.performAll opened b steps).1 = .error (.resource context refusal) := by
  -- a step that opens a descriptor takes the next free number and one off the budget
  induction steps generalizing opened b left with
  | nil =>
    refine ⟨fun _ => ⟨opened, b, rfl, hb, b.table.afterOpening_zero.symm⟩, fun c hc => ?_⟩
    cases hc
  | cons step rest ih =>
    cases hstep : step.context? with
    | none =>
      obtain ⟨next, hperform, hsame, hnext⟩ := perform_of_granted hr hb hopened hstep
      have hrest := ih opened hnext (hsame.table ▸ hleft) hopened (by
        intro i hi hlength
        rw [hsame.table]
        exact hnumbers i hi (by rw [List.filterMap_cons, hstep]; exact hlength))
      rw [hsame.table] at hrest
      rw [List.filterMap_cons, hstep, EngineRequest.performAll, hperform]
      simpa only [List.append_nil] using hrest
    | some context =>
      have hcontexts : (step :: rest).filterMap SetupStep.context? =
          context :: rest.filterMap SetupStep.context? := by
        rw [List.filterMap_cons, hstep]
      rw [hcontexts, List.length_cons] at hnumbers ⊢
      have hperform := perform_descriptor r opened hstep hleft fun hsome =>
        (hnumbers 0 hsome (Nat.succ_pos _)).trans (by decide)
      cases left with
      | zero =>
        rw [if_pos rfl] at hperform
        refine ⟨fun hfit => absurd hfit (Nat.not_succ_le_zero _), fun c hc => ?_⟩
        cases hc
        rw [EngineRequest.performAll, hperform]
      | succ left =>
        rw [if_neg (Nat.succ_ne_zero left)] at hperform
        have hfirst := hnumbers 0 (Nat.succ_pos _) (Nat.succ_pos _)
        obtain ⟨hok, hfailed⟩ := ih (b := { b with table := b.table.afterOpening 1 })
          (opened ++ [b.table.freeNumber 0]) hb (DescriptorTable.budget_afterOpening hleft 1)
          (by simpa [or_imp, forall_and] using ⟨hopened, hfirst⟩) (by
            intro i hi hlength
            rw [DescriptorTable.freeNumber_afterOpening]
            exact hnumbers _ (by omega) (by omega))
        rw [EngineRequest.performAll, hperform]
        refine ⟨fun hfit => ?_, fun c hc => hfailed c hc⟩
        obtain ⟨owned, b', hresult, hample, htable⟩ := hok (by omega)
        refine ⟨owned, b', hresult, hample, ?_⟩
        rw [htable, DescriptorTable.afterOpening_afterOpening, Nat.add_comm]

theorem createEngine_of_budget (hr : r.Granted) (hb : b.IsAmple)
    (hleft : b.table.budget = some left)
    (hnumbers : ∀ i < left, i < r.mechanism.footprint → b.table.freeNumber i < selectCapacity) :
    (r.mechanism.footprint ≤ left → ∃ e b', b.createEngine r = (.ok e, b') ∧ b'.IsAmple ∧
      b'.table = b.table.afterOpening r.mechanism.footprint) ∧
    (left < r.mechanism.footprint →
      (b.createEngine r).1 = .error (.resource (r.mechanism.missing left) refusal)) := by
  have hlength : (r.mechanism.setup.filterMap SetupStep.context?).length =
      r.mechanism.footprint := by
    rw [r.mechanism.contexts_setup, List.length_map, List.length_range]
  obtain ⟨hok, hfailed⟩ := performAll_of_budget r.mechanism.setup [] hr hb hleft nofun
    (by rw [hlength]; exact hnumbers)
  rw [hlength] at hok
  unfold createEngine
  constructor
  · intro hfit
    obtain ⟨owned, next, hresult, hample, htable⟩ := hok hfit
    rw [hresult]
    simp only [shareWatched_eq]
    exact ⟨_, _, rfl, hample, htable⟩
  · intro hspent
    have hcontext : (r.mechanism.setup.filterMap SetupStep.context?)[left]? =
        some (r.mechanism.missing left) := by
      rw [r.mechanism.contexts_setup, List.getElem?_map, List.getElem?_range hspent]
      rfl
    have herror := hfailed _ hcontext
    cases hresult : r.performAll [] b r.mechanism.setup with
    | mk done next =>
      rw [hresult] at herror
      cases herror
      rfl

/-! ## Engines in a row -/

variable {m : Mechanism} {p : Plan} {pairs : List Nat}

theorem watchedOf_create {e : EngineHandle} (h : m.backend.create p pairs b = (.ok e, b'))
    (q : Nat) : b'.watchedOf q = b.watchedOf q := by
  have hcreated : Created pairs b b' _ := m.onBench.create h
  cases hcreated with
  | made hpairs hadmitted =>
    rw [watchedOf, watchedOf, hadmitted.holdings, Option.map_map]
    rfl

theorem request_congr (h : ∀ q, b'.watchedOf q = b.watchedOf q) :
    request m p pairs b' = request m p pairs b := by
  rw [request, request, funext h]

/-- Engines are created one after the other as long as the budget lasts. -/
theorem after_of_budget (hr : (request m p pairs b).Granted) (hb : b.IsAmple)
    (hleft : b.table.budget = some left) (j : Nat) (hfit : j * m.footprint ≤ left)
    (hnumbers : ∀ i < j * m.footprint, b.table.freeNumber i < selectCapacity) :
    (∀ i < j, ∃ e, m.backend.outcome p pairs b i = .ok e) ∧
      (m.backend.after p pairs b j).IsAmple ∧
      (m.backend.after p pairs b j).table = b.table.afterOpening (j * m.footprint) ∧
      ∀ q, (m.backend.after p pairs b j).watchedOf q = b.watchedOf q := by
  -- each engine finds the numbers that those before it have left
  let needs (i : Nat) (c : Bench) : Prop := c.IsAmple ∧
    c.table = b.table.afterOpening (i * m.footprint) ∧ ∀ q, c.watchedOf q = b.watchedOf q
  have hstart : needs 0 b := by
    refine ⟨hb, ?_, fun _ => rfl⟩
    rw [Nat.zero_mul, DescriptorTable.afterOpening_zero]
  refine Backend.after_of_step needs hstart fun i hi c ⟨hample, htable, hwatched⟩ => ?_
  have hi' : (i + 1) * m.footprint ≤ j * m.footprint := Nat.mul_le_mul_right _ hi
  rw [Nat.succ_mul] at hi'
  have hgranted : (request m p pairs c).Granted := by
    rw [request_congr hwatched]
    exact hr
  have hbudget : c.table.budget = some (left - i * m.footprint) := by
    rw [htable, DescriptorTable.budget_afterOpening hleft]
  have hfree : ∀ x < m.footprint, c.table.freeNumber x < selectCapacity :=
    DescriptorTable.below_afterOpening htable fun x hx => hnumbers x (by omega)
  obtain ⟨e, next, hcreate, hnext, htable'⟩ :=
    (createEngine_of_budget hgranted hample hbudget fun x _ hx => hfree x hx).1 (by
      show m.footprint ≤ _
      omega)
  rw [← m.create_backend] at hcreate
  refine ⟨e, next, hcreate, hnext, ?_, fun q => ?_⟩
  · rw [htable', htable, DescriptorTable.afterOpening_afterOpening, Nat.succ_mul]
    rfl
  · rw [watchedOf_create hcreate, hwatched]

/-- The first engine that the budget is not enough for cannot be created. -/
theorem outcome_of_spent (hr : (request m p pairs b).Granted) (hb : b.IsAmple)
    (hleft : b.table.budget = some left) (hfootprint : 0 < m.footprint)
    (hnumbers : ∀ i < left, b.table.freeNumber i < selectCapacity) :
    m.backend.outcome p pairs b (left / m.footprint) =
      .error (.resource (m.missing (left % m.footprint)) refusal) := by
  have hfit := Nat.div_mul_le_self left m.footprint
  have hrest : left - left / m.footprint * m.footprint = left % m.footprint := by
    rw [Nat.mod_eq_sub_div_mul]
  obtain ⟨-, hample, htable, hwatched⟩ :=
    after_of_budget hr hb hleft _ hfit fun i hi => hnumbers i (by omega)
  have hgranted : (request m p pairs (m.backend.after p pairs b (left / m.footprint))).Granted := by
    rw [request_congr hwatched]
    exact hr
  have hbudget := DescriptorTable.budget_afterOpening hleft (left / m.footprint * m.footprint)
  rw [← htable, hrest] at hbudget
  rw [Backend.outcome, m.create_backend]
  refine (createEngine_of_budget hgranted hample hbudget fun i hi _ => ?_).2
    (Nat.mod_lt _ hfootprint)
  exact DescriptorTable.below_afterOpening htable (fun i hi => hnumbers i (by omega)) i hi

end Bench

end ReadinessBench

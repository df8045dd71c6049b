import ReadinessBench.Proofs.Bench.Unbroken
import ReadinessBench.Proofs.Bench.Script
import ReadinessBench.Proofs.Bench.Sockets

/-!
# Who makes reads wait

Reads at the engines' end of a pair do not wait until somebody asks for a threads engine on that
pair, and from then on they do, whether or not the engine could be created and however long it
lives. An engines' end can be listed as long as anybody has a share in it, and its owner may keep
one after the pair has been dropped; who does is not followed here, so any pair that has been opened
may be listed. Main statement: `switched_run`.
-/

namespace ReadinessBench

/-! ## Workers -/

theorem Duty.Work.blockingAt_eq {d d' : Duty} (h : Work d d') :
    blockingAt d'.sockets = blockingAt d.sockets := by
  induction h with
  | refl => rfl
  | tail _ hact ih =>
    cases hact with
    | echo => rw [(Duty.echoed_echo _ _).blockingAt_eq, ih]
    | acknowledge => exact ih

theorem Watcher.blockingAt_work (w : Watcher) (sockets : Array SocketPair) (n : Nat) :
    blockingAt (w.work sockets n).2 = blockingAt sockets := by
  induction n generalizing w sockets with
  | zero => rfl
  | succ n ih =>
    rw [work]
    split
    · rfl
    · obtain ⟨-, d, hwork, -, hsockets⟩ := w.wake_work sockets
      rw [ih, hsockets, hwork.blockingAt_eq]
      rfl

/-- What waits in both directions of a pair, and which of them are open. -/
def SocketPair.queues (p : SocketPair) : ByteQueue × ByteQueue := (p.requests, p.replies)

/-! ## Creations -/

namespace EngineRequest

/-- The pairs on which a creation makes reads wait. It goes from pair to pair, and a hindrance may
strike on the way. -/
def switched (r : EngineRequest) (h : Option Hindrance) : List Nat :=
  if r.blocksReads then
    match h.filter (·.strikes r) with
    | some h => if h.steps = 1 then (r.firstOnly h.served).watched.map Watched.pair
      else r.watched.map Watched.pair
    | none => r.watched.map Watched.pair
  else []

variable {r : EngineRequest} {b b' : Bench}

theorem switched_subset (r : EngineRequest) (h : Option Hindrance) :
    ∀ i ∈ r.switched h, r.blocksReads = true ∧ i ∈ r.watched.map Watched.pair := by
  intro i hi
  rw [switched] at hi
  split at hi
  · next hblocks =>
    refine ⟨hblocks, ?_⟩
    split at hi
    · split at hi
      · exact List.map_subset Watched.pair (List.take_subset _ _) hi
      · exact hi
    · exact hi
  · cases hi

theorem switched_congr {r' : EngineRequest} (hm : r'.mechanism = r.mechanism)
    (hexclusive : r'.exclusive = r.exclusive)
    (hpairs : r'.watched.map Watched.pair = r.watched.map Watched.pair) (h : Option Hindrance) :
    r'.switched h = r.switched h := by
  have hlength : r'.watched.length = r.watched.length := by
    simpa using congrArg List.length hpairs
  have hstrikes : (fun h : Hindrance => h.strikes r') = fun h => h.strikes r := by
    funext h
    rw [Hindrance.strikes, Hindrance.strikes, hm, hlength]
  have hfirst (n : Nat) : (r'.firstOnly n).watched.map Watched.pair =
      (r.firstOnly n).watched.map Watched.pair := by
    rw [firstOnly, firstOnly, List.map_take, List.map_take, hpairs]
  rw [switched, switched, blocksReads, blocksReads, hm, hexclusive, hstrikes, hpairs]
  simp only [hfirst]

/-- With nothing in the way, or not there, it is all pairs that are listed. -/
theorem switched_of_none {h : Option Hindrance} (hnone : h.filter (·.strikes r) = none) :
    r.switched h = if r.blocksReads then r.watched.map Watched.pair else [] := by
  rw [switched, hnone]

theorem sockets_performHindered (r : EngineRequest) (h : Hindrance) (b : Bench)
    {step : Option SetupStep} (hstep : step ≠ some .blockReads) :
    (r.performHindered h b step).2.sockets = b.sockets := by
  have hworkers : ((r.firstOnly (h.served + 1)).perform [] b .workers).2.sockets = b.sockets :=
    Bench.sockets_perform _ [] nofun
  unfold performHindered
  split
  · exact absurd rfl hstep
  · split <;> next heq =>
      rw [heq] at hworkers
      exact hworkers
  · rfl

/-- Without a step that makes reads wait, or without coming to it, the sockets stay as they are. -/
theorem sockets_breakOff {h : Hindrance} (hstrikes : h.strikes r = true)
    (hblocks : r.blocksReads = false) (b : Bench) : (r.breakOff h b).2.sockets = b.sockets := by
  unfold breakOff
  by_cases hm : r.mechanism = .threads
  · -- the request is to be exclusive, and the first step refuses it
    have hexclusive : r.exclusive = true := by
      rw [blocksReads, hm] at hblocks
      simpa using hblocks
    have hrefused : r.performAll [] b (r.mechanism.setup.take h.steps) =
        (.error (.unsupportedExclusive r.mechanism.name), b) := by
      rw [hm]
      rcases steps_of_strikes hm hstrikes with hone | htwo
      · simp [hone, Mechanism.setup, performAll, perform, hexclusive, hm, Mechanism.wakesOne,
          Bench.close, DescriptorTable.closeAll]
      · simp [htwo, Mechanism.setup, performAll, perform, hexclusive, hm, Mechanism.wakesOne,
          Bench.close, DescriptorTable.closeAll]
    rw [hrefused]
  · have hsetup : SetupStep.blockReads ∉ r.mechanism.setup := by
      revert hm
      cases r.mechanism <;> decide
    have hbefore : (r.performAll [] b (r.mechanism.setup.take h.steps)).2.sockets = b.sockets :=
      Bench.sockets_performAll r [] fun hmem => hsetup (List.mem_of_mem_take hmem)
    split <;> rename_i heq <;> rw [heq] at hbefore
    · exact hbefore
    · exact (r.sockets_performHindered h _ fun hsome =>
        hsetup (List.mem_of_getElem? hsome)).trans hbefore

/-- A threads engine that is not to be exclusive makes reads wait as far as it comes. -/
theorem getElem?_breakOff {h : Hindrance} (hstrikes : h.strikes r = true)
    (hblocks : r.blocksReads = true) (b : Bench) (i : Nat) :
    (r.breakOff h b).2.sockets[i]? =
      if i ∈ (if h.steps = 1 then (r.firstOnly h.served).watched.map Watched.pair
        else r.watched.map Watched.pair) then b.sockets[i]?.map SocketPair.setBlocking
      else b.sockets[i]? := by
  obtain ⟨hm, hplain⟩ : r.mechanism = .threads ∧ r.exclusive = false := by
    simpa [blocksReads] using hblocks
  have hchecked : r.perform [] b .checkExclusive = (.ok [], b) := by
    rw [perform, hplain]
    rfl
  unfold breakOff
  rcases steps_of_strikes hm hstrikes with hone | htwo
  · have hbefore : r.performAll [] b (r.mechanism.setup.take h.steps) = (.ok [], b) := by
      simp [hm, hone, Mechanism.setup, performAll, hchecked]
    have hat : r.mechanism.setup[h.steps]? = some .blockReads := by
      rw [hm, hone]
      rfl
    rw [hbefore, hat, if_pos hone]
    exact Bench.getElem?_blockAll b _ i
  · have hbefore : r.performAll [] b (r.mechanism.setup.take h.steps) =
        (.ok [], r.watched.foldl (fun b w => b.updatePair w.pair .setBlocking) b) := by
      simp [hm, htwo, hplain, Mechanism.setup, performAll, perform]
    have hat : r.mechanism.setup[h.steps]? = some .workers := by
      rw [hm, htwo]
      rfl
    have hnot : h.steps ≠ 1 := by omega
    have hother : some SetupStep.workers ≠ some .blockReads := by decide
    rw [hbefore, hat, if_neg hnot, ← Bench.getElem?_blockAll]
    exact congrArg (·[i]?) (r.sockets_performHindered h _ hother)

/-- To create an engine, with whatever success, changes no more than whether reads wait. -/
theorem getElem?_createUnder (b : Bench) (r : EngineRequest) (h : Option Hindrance) (i : Nat) :
    (b.createUnder r h).2.sockets[i]? =
      if i ∈ r.switched h then b.sockets[i]?.map SocketPair.setBlocking else b.sockets[i]? := by
  unfold Bench.createUnder
  cases hstrikes : h.filter (·.strikes r) with
  | none =>
    rw [switched_of_none hstrikes]
    refine (Bench.getElem?_createEngine b r i).trans ?_
    cases r.blocksReads <;> simp
  | some hindrance =>
    have hhit := (Option.filter_eq_some_iff.mp hstrikes).2
    rw [switched, hstrikes]
    cases hblocks : r.blocksReads with
    | true => exact getElem?_breakOff hhit hblocks b i
    | false => exact congrArg (·[i]?) (sockets_breakOff hhit hblocks b)

/-- Whatever becomes of an engine that is asked for, no queue is touched. -/
theorem queues_createUnder (b : Bench) (r : EngineRequest) (h : Option Hindrance) (i : Nat) :
    (b.createUnder r h).2.sockets[i]?.map SocketPair.queues =
      b.sockets[i]?.map SocketPair.queues := by
  rw [getElem?_createUnder]
  split
  · rw [Option.map_map]
    rfl
  · rfl

end EngineRequest

namespace Bench

variable {b b' : Bench} {pair i : Nat} {made pairs : List Nat} {n : Nat}

/-! ## Pairs and traffic -/

/-- The same reads wait. -/
def SameModes (b b' : Bench) : Prop := blockingAt b'.sockets = blockingAt b.sockets

namespace SameModes

theorem settle (b : Bench) : SameModes b b.settle :=
  foldl_keeps (fun s : List (Nat × Watcher) × Array SocketPair => blockingAt s.2)
    (fun s x => x.2.blockingAt_work s.2 _) ([], b.sockets) b.watchers

theorem keptByCalls : KeptByCalls SameModes where
  refl _ := rfl
  trans h h' := Eq.trans h' h
  send := blockingAt_send
  receive := blockingAt_receive
  settle := settle
  cancel _ := rfl
  faulted _ _ := rfl
  finished _ _ := rfl

theorem errand (b : Bench) (e : Errand) (he : ∀ pair, e ≠ .setBlocking pair) :
    SameModes b (b.runErrand e) := by
  cases e with
  | send pair data => exact blockingAt_send b pair data
  | receive pair n => exact blockingAt_receive b pair n
  | reply pair data => exact blockingAt_reply b pair data
  | accept pair n => exact blockingAt_accept b pair n
  | echo pair buffer => exact (b.echoed_echo pair buffer).blockingAt_eq
  | settle => exact settle b
  | shutdown pair e d => exact blockingAt_modify fun _ => rfl
  | setBlocking pair => exact absurd rfl (he pair)
  | drive w pairs draw roundTrips => exact keptByCalls.drive b w pairs draw roundTrips
  | cancel => rfl

theorem dropPairs (b : Bench) (pairs : List Nat) : SameModes b (b.dropPairs pairs) :=
  foldl_keeps (fun b : Bench => blockingAt b.sockets) blockingAt_dropPair b pairs.reverse

theorem prepare {size : Nat} {result : Except BenchError Workload}
    (h : b.prepare n size = (result, b')) : SameModes b b' := by
  have hasked := b.sockets_allocate size
  rw [Bench.prepare] at h
  split at h
  · cases h
    rfl
  · split at h
    · cases h
      rfl
    · split at h <;> next heq =>
        cases h
        rw [heq] at hasked
        exact congrArg blockingAt hasked

theorem arm {refusal : Option BenchError} (h : b.arm = (refusal, b')) : SameModes b b' := by
  cases h
  rfl

end SameModes

/-- Pairs that have been opened are there. -/
theorem lt_size_of_openMore (hmade : ∀ q ∈ made, q < b.sockets.size)
    (h : openMore made n b = (.ok pairs, b')) : ∀ q ∈ pairs, q < b'.sockets.size := by
  induction n generalizing made b with
  | zero =>
    cases h
    intro q hq
    exact hmade q (List.mem_reverse.mp hq)
  | succ n ih =>
    rw [openMore] at h
    split at h
    · next engine generator table hopen =>
      refine ih (fun q hq => ?_) h
      rw [addPair, Array.size_push]
      rcases List.mem_cons.mp hq with rfl | hq
      · exact Nat.lt_succ_self _
      · exact Nat.lt_succ_of_lt (hmade q hq)
    · cases h

end Bench

open Bench (SameModes)

namespace Circumstances

variable {s s' t : Circumstances} {m : Mechanism} {p : Plan} {pairs : List Nat} {i : Nat}

/-! ## Engines -/

/-- The pairs on which the next creation makes reads wait, if it is this one. -/
def switchedBy (s : Circumstances) (m : Mechanism) (p : Plan) (pairs : List Nat) : List Nat :=
  (Bench.request m p pairs s.bench).switched s.hindrance?

theorem switchedBy_subset (hi : i ∈ s.switchedBy m p pairs) :
    m = .threads ∧ p.exclusive = false ∧ i ∈ pairs := by
  obtain ⟨hblocks, hmem⟩ := EngineRequest.switched_subset _ _ i hi
  rw [Bench.map_pair_request] at hmem
  rw [EngineRequest.blocksReads, Bool.and_eq_true, Bool.not_eq_true'] at hblocks
  exact ⟨of_decide_eq_true hblocks.1, hblocks.2, hmem⟩

theorem blockingAt_create (hopened : ∀ i ∈ pairs, i < s.bench.sockets.size) (i : Nat) :
    blockingAt (m.hindered.create p pairs s).2.bench.sockets i = true ↔
      blockingAt s.bench.sockets i = true ∨ i ∈ s.switchedBy m p pairs := by
  have hsockets := EngineRequest.getElem?_createUnder s.bench (Bench.request m p pairs s.bench)
    s.hindrance? i
  rw [m.createUnder_eq] at hsockets
  rw [blockingAt, hsockets, blockingAt, switchedBy]
  split
  · next hswitched =>
    have hlt := hopened i (switchedBy_subset hswitched).2.2
    simp [Array.getElem?_eq_getElem hlt, SocketPair.setBlocking, hswitched]
  · next hnot => simp [hnot]

/-- A creation that succeeds has met with no hindrance. -/
theorem switchedBy_of_ok {e : EngineHandle} (h : m.hindered.create p pairs s = (.ok e, s'))
    (hm : m = .threads) (hplain : p.exclusive = false) (hi : i ∈ pairs) :
    i ∈ s.switchedBy m p pairs := by
  have hcreate := Mechanism.createUnder_of_hindered h
  unfold Bench.createUnder at hcreate
  split at hcreate
  · cases hcreate
  · next hnone =>
    have hblocks : (Bench.request m p pairs s.bench).blocksReads = true := by
      simp [EngineRequest.blocksReads, Bench.request, hm, hplain]
    rw [switchedBy, EngineRequest.switched_of_none hnone, hblocks, Bench.map_pair_request]
    exact hi

theorem sockets_destroyAll (engines : List EngineHandle) (s : Circumstances) :
    (m.hindered.destroyAll engines s).bench.sockets = s.bench.sockets :=
  foldl_keeps (fun s : Circumstances => s.bench.sockets)
    (fun s e => s.bench.sockets_destroyEngine e.id) s engines

/-- A fleet that is asked for asks for its first engine at least, and the others come only if the
first has made all reads wait that it is to. -/
theorem blockingAt_extend (hopened : ∀ i ∈ pairs, i < s.bench.sockets.size)
    (made : List EngineHandle) (n : Nat) (i : Nat) :
    blockingAt (Fleet.extend m.hindered p pairs made n s).2.bench.sockets i = true ↔
      blockingAt s.bench.sockets i = true ∨ 0 < n ∧ i ∈ s.switchedBy m p pairs := by
  induction n generalizing made s with
  | zero => simp [Fleet.extend]
  | succ n ih =>
    have hcreate := blockingAt_create (m := m) (p := p) hopened i
    rw [Fleet.extend]
    split <;> rename_i heq <;> rw [heq] at hcreate
    · next e next =>
      have hsize : next.bench.sockets.size = s.bench.sockets.size :=
        (m.hindered_onBench.create heq).sockets_size
      rw [ih (fun i hi => hsize ▸ hopened i hi), hcreate, or_assoc,
        and_iff_right (Nat.succ_pos n)]
      refine or_congr_right (or_iff_left_of_imp ?_)
      rintro ⟨-, hlater⟩
      obtain ⟨hm, hplain, hi⟩ := switchedBy_subset hlater
      exact switchedBy_of_ok heq hm hplain hi
    · rw [sockets_destroyAll, and_iff_right (Nat.succ_pos n)]
      exact hcreate

theorem switchedBy_congr (h : t.hindrances = s.hindrances) (m : Mechanism) (p : Plan)
    (pairs : List Nat) : t.switchedBy m p pairs = s.switchedBy m p pairs := by
  have hpairs : (Bench.request m p pairs t.bench).watched.map Watched.pair =
      (Bench.request m p pairs s.bench).watched.map Watched.pair := by
    rw [Bench.map_pair_request, Bench.map_pair_request]
  have hsame : t.hindrance? = s.hindrance? := by rw [hindrance?, h, hindrance?]
  rw [switchedBy, switchedBy, hsame]
  refine EngineRequest.switched_congr ?_ ?_ hpairs _ <;> rfl

/-! ## Steps -/

/-- With this a threads engine is asked for that makes the reads on the pair wait. -/
def AsksToWait (s : Circumstances) (pair : Nat) : Chore → Prop
  | .create m p pairs => pair ∈ s.switchedBy m p pairs
  | .createFleet m p count pairs =>
    Fleet.isReservable count = true ∧ 0 < count ∧ pair ∈ s.switchedBy m p pairs
  | .run m p _ _ =>
    Fleet.isReservable p.engines = true ∧ ∃ pairs opened,
      (s.bench.record (.runStarting m.name p)).openPairs p.pairs = (.ok pairs, opened) ∧
        pair ∈ s.switchedBy m p pairs
  | _ => False

theorem blockingAt_createFleet {count : Nat} {result : Except BenchError Fleet}
    (hopened : ∀ i ∈ pairs, i < s.bench.sockets.size)
    (h : Fleet.create m.hindered p count pairs s = .ok (result, s')) (i : Nat) :
    blockingAt s'.bench.sockets i = true ↔ blockingAt s.bench.sockets i = true ∨
      Fleet.isReservable count = true ∧ 0 < count ∧ i ∈ s.switchedBy m p pairs := by
  have hextended := blockingAt_extend (m := m) (p := p) hopened [] count i
  rw [Fleet.create] at h
  split at h
  · next hroom =>
    rw [Except.ok.inj h] at hextended
    rw [and_iff_right hroom]
    exact hextended
  · cases h

theorem not_isReservable {count : Nat} {r : RangeError}
    (h : Fleet.create m.hindered p count pairs s = .error r) :
    ¬ Fleet.isReservable count = true := by
  intro hroom
  rw [Fleet.create, if_pos hroom] at h
  cases h

/-- Nothing in the setup of a run makes reads wait but the engines that it asks for. -/
theorem blockingAt_begin {result : Except BenchError Underway}
    (h : m.hindered.begin p s = .ok (result, s')) (draw : Draw) (patience : Patience) (i : Nat) :
    blockingAt s'.bench.sockets i = true ↔
      blockingAt s.bench.sockets i = true ∨ s.AsksToWait i (.run m p draw patience) := by
  -- once there are pairs, the modes are those that the engines have left
  have hmade {pairs : List Nat} {b : Bench} {made : Except BenchError Fleet} {t : Circumstances}
      (hpairs : (s.bench.record (.runStarting m.name p)).openPairs p.pairs = (.ok pairs, b))
      (hengines : Fleet.create m.hindered p p.engines pairs { s with bench := b } = .ok (made, t))
      (hsame : SameModes t.bench s'.bench) :
      blockingAt s'.bench.sockets i = true ↔
        blockingAt s.bench.sockets i = true ∨ s.AsksToWait i (.run m p draw patience) := by
    have hopened := Bench.lt_size_of_openMore (fun _ hq => absurd hq List.not_mem_nil) hpairs
    have hmodes := (s.bench.record (.runStarting m.name p)).blockingAt_openMore [] p.pairs
    change blockingAt (Bench.openPairs _ _).2.sockets = blockingAt s.bench.sockets at hmodes
    rw [hpairs] at hmodes
    rw [hsame, blockingAt_createFleet hopened hengines, hmodes,
      and_iff_right (Nat.pos_of_ne_zero p.engines_pos),
      switchedBy_congr (t := { s with bench := b }) (s := s) rfl]
    refine or_congr_right (and_congr_right fun _ => ?_)
    constructor
    · exact fun hi => ⟨pairs, b, hpairs, hi⟩
    · rintro ⟨pairs', b', hpairs', hi⟩
      rw [hpairs] at hpairs'
      cases hpairs'
      exact hi
  have hdown (fleet : Fleet) (pairs : List Nat) (t : Circumstances) : SameModes t.bench
      (m.hindered.update (·.dropPairs pairs) (fleet.destroy m.hindered t)).bench :=
    (SameModes.dropPairs _ pairs).trans (congrArg blockingAt (sockets_destroyAll fleet.reverse t))
  cases Backend.begin_cases h with
  | noPairs hpairs =>
    have hmodes := (s.bench.record (.runStarting m.name p)).blockingAt_openMore [] p.pairs
    change blockingAt (Bench.openPairs _ _).2.sockets = blockingAt s.bench.sockets at hmodes
    change (s.bench.record (.runStarting m.name p)).openPairs p.pairs = _ at hpairs
    rw [hpairs] at hmodes
    have hnot : ¬ s.AsksToWait i (.run m p draw patience) := by
      rintro ⟨-, pairs, b, hopened, -⟩
      rw [hpairs] at hopened
      cases hopened
    rw [or_iff_left hnot]
    exact iff_of_eq (congrArg (· i = true) hmodes)
  | noEngines hpairs hengines => exact hmade hpairs hengines (SameModes.dropPairs _ _)
  | noWorkload hpairs hengines hworkload =>
    exact hmade hpairs hengines ((hdown _ _ _).trans (SameModes.prepare hworkload))
  | noTimer hpairs hengines hworkload htimer =>
    exact hmade hpairs hengines
      ((hdown _ _ _).trans ((SameModes.arm htimer).trans (SameModes.prepare hworkload)))
  | ready hpairs hengines hworkload htimer =>
    exact hmade hpairs hengines ((SameModes.arm htimer).trans (SameModes.prepare hworkload))

theorem blockingAt_run {draw : Draw} {patience : Patience} {result : Except BenchError TrafficEnd}
    (h : m.hindered.run p draw patience s = .ok (result, s')) (i : Nat) :
    blockingAt s'.bench.sockets i = true ↔
      blockingAt s.bench.sockets i = true ∨ s.AsksToWait i (.run m p draw patience) := by
  rw [Backend.run] at h
  split at h
  · cases h
  · next hbegin =>
    cases h
    exact blockingAt_begin hbegin draw patience i
  · next u t hbegin =>
    cases h
    -- neither the traffic nor the way down touches the modes
    have hdriven := SameModes.keptByCalls.drive t.bench u.workload u.pairs draw
      (patience.limit t.bench u.pairs)
    have hdown := sockets_destroyAll (m := m) u.fleet.reverse { t with
      bench := (u.traffic draw t.bench |>.run (patience.limit t.bench u.pairs)).report }
    rw [← blockingAt_begin hbegin draw patience i]
    exact iff_of_eq (congrArg (· i = true)
      ((SameModes.dropPairs _ _).trans ((congrArg blockingAt hdown).trans hdriven)))

/-- Only pairs that have been opened are handed to engines. -/
def onOpened : Rule := fun b x => x.isOn (· < b.sockets.size)

theorem lt_size_of_onOpened (h : pairs.all (· < s.bench.sockets.size) = true) :
    ∀ i ∈ pairs, i < s.bench.sockets.size :=
  fun i hi => of_decide_eq_true (List.all_eq_true.mp h i hi)

theorem blockingAt_perform {x : Chore} (hallowed : onOpened s.bench x = true)
    (hx : ∀ pair, x ≠ .traffic (.setBlocking pair)) (i : Nat) :
    blockingAt (s.perform x).2.bench.sockets i = true ↔
      blockingAt s.bench.sockets i = true ∨ s.AsksToWait i x := by
  -- most steps leave the modes alone and ask for nothing
  have hsame (h : SameModes s.bench (s.perform x).2.bench) (hnot : ¬ s.AsksToWait i x) :
      blockingAt (s.perform x).2.bench.sockets i = true ↔
        blockingAt s.bench.sockets i = true ∨ s.AsksToWait i x := by
    rw [h, or_iff_left hnot]
  cases x with
  | openPairs count =>
    refine hsame ?_ id
    rw [perform, concluded_ok]
    exact s.bench.blockingAt_openMore [] count
  | dropPair pair => exact hsame (s.bench.blockingAt_dropPair pair) id
  | create m p pairs =>
    rw [perform, concluded_ok]
    exact blockingAt_create (lt_size_of_onOpened hallowed) i
  | createFleet m p count pairs =>
    rw [perform]
    cases hcreate : Fleet.create m.hindered p count pairs s with
    | error r =>
      rw [AsksToWait, or_iff_left fun h => not_isReservable hcreate h.1]
      rfl
    | ok made =>
      rw [concluded_ok]
      exact blockingAt_createFleet (lt_size_of_onOpened hallowed) hcreate i
  | destroy m e => exact hsame (congrArg blockingAt (s.bench.sockets_destroyEngine e.id)) id
  | destroyFleet m f => exact hsame (congrArg blockingAt (sockets_destroyAll f.reverse s)) id
  | run m p draw patience =>
    rw [perform]
    cases hrun : m.hindered.run p draw patience s with
    | error r =>
      obtain ⟨-, hlarge, -⟩ := (m.hindered.run_error_iff p draw patience s r).mp hrun
      rw [AsksToWait, or_iff_left fun h => absurd (of_decide_eq_true h.1) (Nat.not_lt.mpr hlarge)]
      rfl
    | ok made =>
      rw [concluded_ok]
      exact blockingAt_run hrun i
  | traffic e =>
    exact hsame (SameModes.errand s.bench e fun pair he => hx pair (by rw [he])) id
  | grant left => exact hsame rfl id
  | occupy n => exact hsame rfl id
  | vacate => exact hsame rfl id
  | setTable table => exact hsame rfl id
  | setShortages shortages => exact hsame rfl id
  | setUnarmed unarmed => exact hsame rfl id
  | setHindrances hindrances => exact hsame rfl id

/-! ## Whole scripts -/

theorem blockingAt_step {x : Chore} (hx : ∀ pair, x ≠ .traffic (.setBlocking pair)) (i : Nat) :
    blockingAt (s.step onOpened x).2.bench.sockets i = true ↔
      blockingAt s.bench.sockets i = true ∨ onOpened s.bench x = true ∧ s.AsksToWait i x := by
  unfold step
  split
  · next hallowed => rw [blockingAt_perform hallowed hx, and_iff_right hallowed]
  · next hnot => rw [or_iff_left fun h => hnot h.1]

/-- Nothing makes reads return at once again. -/
theorem blockingAt_step_of_blockingAt (x : Chore) (h : blockingAt s.bench.sockets i = true) :
    blockingAt (s.step onOpened x).2.bench.sockets i = true := by
  by_cases hx : ∃ pair, x = .traffic (.setBlocking pair)
  · obtain ⟨pair, rfl⟩ := hx
    show blockingAt (s.bench.sockets.modify pair .setBlocking) i = true
    rw [blockingAt, Array.getElem?_modify]
    split
    · rw [blockingAt] at h
      cases hi : s.bench.sockets[i]? with
      | none => simp [hi] at h
      | some q => rfl
    · exact h
  · exact (blockingAt_step (fun pair hpair => hx ⟨pair, hpair⟩) i).2 (Or.inl h)

theorem blockingAt_run_script (s : Circumstances) {script : List Chore}
    (htraffic : ∀ pair, .traffic (.setBlocking pair) ∉ script) (i : Nat) :
    blockingAt (s.run onOpened script).bench.sockets i = true ↔
      blockingAt s.bench.sockets i = true ∨
        ∃ before x after, script = before ++ x :: after ∧
          onOpened (s.run onOpened before).bench x = true ∧
            (s.run onOpened before).AsksToWait i x := by
  induction script using List.reverseRecOn with
  | nil => simp [run]
  | append_singleton script x ih =>
    have hbefore := ih fun pair hpair => htraffic pair (List.mem_append_left [x] hpair)
    have hx : ∀ pair, x ≠ .traffic (.setBlocking pair) := fun pair hpair =>
      htraffic pair (by simp [hpair])
    rw [run_concat, blockingAt_step hx, hbefore]
    constructor
    · rintro ((hstart | ⟨before, y, after, rfl, hasks⟩) | hasks)
      · exact Or.inl hstart
      · exact Or.inr ⟨before, y, after ++ [x], by simp, hasks⟩
      · exact Or.inr ⟨script, x, [], rfl, hasks⟩
    · rintro (hstart | ⟨before, y, after, hsplit, hasks⟩)
      · exact Or.inl (Or.inl hstart)
      · rcases snoc_eq_append_cons hsplit with ⟨rfl, rfl⟩ | ⟨rest, hrest⟩
        · exact Or.inr hasks
        · exact Or.inl (Or.inr ⟨before, y, rest, hrest, hasks⟩)

/-- **Reads wait if and only if a threads engine has been asked for.** The script is any sequence
of steps, in any surroundings: the descriptors may run out, memory may be refused and a creation
broken off wherever it is. Only where the hindrance comes before a pair is made to wait, it is as if
the pair had not been listed. -/
theorem switched_run (table : DescriptorTable) (script : List Chore)
    (htraffic : ∀ pair, .traffic (.setBlocking pair) ∉ script) :
    let s := run onOpened { bench := { table } } script
    (∀ pair, blockingAt s.bench.sockets pair = true ↔
      ∃ before x after, script = before ++ x :: after ∧
        let earlier := run onOpened { bench := { table } } before
        onOpened earlier.bench x = true ∧ earlier.AsksToWait pair x) ∧
    (∀ x pair, blockingAt s.bench.sockets pair = true →
      blockingAt (s.step onOpened x).2.bench.sockets pair = true) ∧
    (∀ (r : EngineRequest) h e b', s.bench.createUnder r h = (.error e, b') → ∀ pair : Nat,
      b'.sockets[pair]?.map SocketPair.queues = s.bench.sockets[pair]?.map SocketPair.queues) := by
  intro s
  refine ⟨fun pair => ?_, fun x pair => blockingAt_step_of_blockingAt x, ?_⟩
  · rw [blockingAt_run_script _ htraffic, or_iff_right]
    simp [blockingAt]
  · intro r h e b' hcreate pair
    have hqueues := EngineRequest.queues_createUnder s.bench r h pair
    rwa [hcreate] at hqueues

/-- The first plan is refused by a threads engine at once; what the second one asks for fails when
the reads have been made to wait; the engine on pair 2 is destroyed again, and pair 1 is listed
once more when it has been dropped. The last creation is broken off between its two pairs. -/
theorem switched_run_failed :
    let exclusive : Plan := ⟨.epoll, 1, 1, 4, true, usualDuration, by decide, by decide, by decide,
      by decide, by decide⟩
    let huge : Plan := ⟨.threads, 1, 1, 140737488355328, false, usualDuration, by decide, by decide,
      by decide, by decide, by decide⟩
    let modest : Plan := ⟨.threads, 1, 1, 4, false, usualDuration, by decide, by decide, by decide,
      by decide, by decide⟩
    let broken : Hindrance := ⟨1, 1, "failed to make endpoint blocking", .errno 9⟩
    let script : List Chore := [.openPairs 5, .create .threads exclusive [0],
      .createFleet .threads huge 2 [1], .create .threads modest [2], .traffic (.send 2 [7]),
      .traffic .settle, .destroy .threads ⟨0, 1⟩, .dropPair 1, .create .epoll modest [0, 1, 0],
      .create .threads huge [3, 1], .setHindrances [some broken], .create .threads modest [0, 4]]
    let after (script : List Chore) : Circumstances :=
      run onOpened { bench := { table := .initial } } script
    (List.range 13).map (fun n =>
        (List.range 5).filter (blockingAt (after (script.take n)).bench.sockets)) =
        [[], [], [], [1], [1, 2], [1, 2], [1, 2], [1, 2], [1, 2], [1, 2], [1, 2, 3], [1, 2, 3],
          [0, 1, 2, 3]] ∧
      (∀ pair, .traffic (.setBlocking pair) ∉ script) ∧
      ∀ pair, blockingAt (after script).bench.sockets pair = true ↔
        ∃ before x later, script = before ++ x :: later ∧
          onOpened (after before).bench x = true ∧ (after before).AsksToWait pair x := by
  intro exclusive huge modest broken script after
  have htraffic : ∀ pair, .traffic (.setBlocking pair) ∉ script := by simp [script]
  obtain ⟨hmodes, -, -⟩ := switched_run .initial script htraffic
  refine ⟨by decide +kernel, htraffic, fun pair => ?_⟩
  rw [hmodes]

end Circumstances

end ReadinessBench

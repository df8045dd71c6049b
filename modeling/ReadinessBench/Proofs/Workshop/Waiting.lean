import ReadinessBench.Proofs.Bench.Sockets
import ReadinessBench.Proofs.Workshop.Basic

/-!
# Workers that wait outside their wait

A worker is meant to wait in its readiness wait only, where a stop request reaches it. Its reads
wait too on a pair for which a threads engine has been asked once, even if that engine is gone. A
report that has gone stale, or a pair that is listed twice, is enough then, and the worker waits for
the generator, deaf to its owner. Main statement: `waiting_run`.
-/

namespace ReadinessBench

/-! ## Nothing to read -/

/-- A read on this pair waits, and there is nothing to read. -/
def Starves (sockets : Array SocketPair) (pair : Nat) : Prop :=
  ∃ p, sockets[pair]? = some p ∧ p.blocking = true ∧ p.requests.OpenWith []

theorem SocketPair.wouldWait_iff {p : SocketPair} {n : Nat} :
    p.wouldWait n = true ↔ 0 < n ∧ p.blocking = true ∧ p.requests.OpenWith [] := by
  simp [wouldWait, ByteQueue.isReadable, ByteQueue.OpenWith, and_assoc]

theorem starves_iff {sockets : Array SocketPair} {pair n : Nat} :
    sockets[pair]?.any (·.wouldWait n) = true ↔ 0 < n ∧ Starves sockets pair := by
  rw [Option.any_eq_true]
  constructor
  · rintro ⟨p, hp, hwaits⟩
    obtain ⟨hn, hblocking, hrequests⟩ := SocketPair.wouldWait_iff.mp hwaits
    exact ⟨hn, p, hp, hblocking, hrequests⟩
  · rintro ⟨hn, p, hp, hblocking, hrequests⟩
    exact ⟨p, hp, SocketPair.wouldWait_iff.mpr ⟨hn, hblocking, hrequests⟩⟩

namespace Starves

variable {sockets sockets' : Array SocketPair} {pair : Nat}

theorem blockingAt_eq (h : Starves sockets pair) : blockingAt sockets pair = true := by
  obtain ⟨p, hp, hblocking, -⟩ := h
  rw [blockingAt, hp]
  exact hblocking

theorem congr (h : Starves sockets pair) (hsame : sockets'[pair]? = sockets[pair]?) :
    Starves sockets' pair := by
  obtain ⟨p, hp, hrest⟩ := h
  exact ⟨p, hsame.trans hp, hrest⟩

-- what is done to one pair must not bring anything to read
theorem set (h : Starves sockets pair) {q : Nat} {p p' : SocketPair} (hp : sockets[q]? = some p)
    (hblocking : p'.blocking = p.blocking)
    (hrequests : p.requests.OpenWith [] → p'.requests.OpenWith []) :
    Starves (sockets.setIfInBounds q p') pair := by
  by_cases hq : q = pair
  · subst hq
    obtain ⟨r, hr, hrest⟩ := h
    obtain rfl := Option.some.inj (hp.symm.trans hr)
    have hlt : q < sockets.size := (Array.getElem?_eq_some_iff.mp hp).1
    refine ⟨p', ?_, hblocking.trans hrest.1, hrequests hrest.2⟩
    rw [Array.getElem?_setIfInBounds, if_pos rfl, if_pos hlt]
  · exact h.congr (Array.getElem?_setIfInBounds_ne hq)

theorem echoed (h : Starves sockets pair) (hechoed : Echoed sockets sockets') :
    Starves sockets' pair := by
  cases hechoed with
  | none => exact h
  | @some q p n hp =>
    refine h.set hp rfl fun ⟨hempty, hopen⟩ => ⟨?_, hopen⟩
    -- an echo step takes from the front of nothing
    show p.requests.waiting.drop n = []
    rw [hempty, List.drop_nil]

theorem createEngine {b : Bench} (h : Starves b.sockets pair) (r : EngineRequest) :
    Starves (b.createEngine r).2.sockets pair := by
  obtain ⟨p, hp, hblocking, hrequests⟩ := h
  rw [Starves, Bench.getElem?_createEngine, hp]
  split
  · exact ⟨p.setBlocking, rfl, rfl, hrequests⟩
  · exact ⟨p, rfl, hblocking, hrequests⟩

theorem receive {b : Bench} (h : Starves b.sockets pair) (q n : Nat) :
    Starves (b.receive q n).2.sockets pair := by
  unfold Bench.receive
  split
  · exact h
  · rename_i p hp
    -- a read at the generator's end takes replies only
    exact h.set hp rfl id

end Starves

/-! ## One worker -/

namespace Body

variable {b : Body} {pair : Nat}

theorem sockets_work (s : LoopRun) :
    s.work.duty.sockets = s.duty.sockets ∨
      ∃ pair, (loop s).nextRead = some pair ∧
        s.work.duty.sockets = (s.duty.echo pair).sockets := by
  unfold LoopRun.work
  split
  · rename_i job rest hwaiting htodo
    cases job with
    | acknowledge => exact Or.inl rfl
    | echo pair =>
      refine Or.inr ⟨pair, ?_, rfl⟩
      simp only [nextRead, hwaiting, htodo]
  · exact Or.inl rfl

theorem sockets_handleNext (s : RingRun) (h : Handover) :
    (s.handleNext h).worker.duty.sockets = s.worker.duty.sockets ∨
      ∃ pair, (ring s).nextRead = some pair ∧
        (s.handleNext h).worker.duty.sockets = (s.worker.duty.echo pair).sockets := by
  unfold RingRun.handleNext
  split
  · rename_i token result rest hwaiting hbatch
    have hduty := congrArg Prod.snd (s.worker.complete_eq_attend token result h)
    have hhandle : (s.handle h token result rest).worker.duty = (s.worker.duty.attend
        [RingWorker.notice s.worker.duty.watched.length token result]).2 := hduty
    rw [hhandle]
    cases hnotice : RingWorker.notice s.worker.duty.watched.length token result with
    | readable i =>
      rw [Duty.attend, Duty.attend, Duty.echoAt]
      cases hw : s.worker.duty.watched[i]? with
      | none => exact Or.inl rfl
      | some w =>
        refine Or.inr ⟨w.pair, ?_, rfl⟩
        simp only [nextRead, hwaiting, hbatch, hnotice, hw, Option.map_some]
    | stop =>
      left
      rcases s.worker.duty.acknowledge_cases with ⟨-, hack⟩ | ⟨-, hack⟩
      · rw [Duty.attend, hack]
      · rw [Duty.attend, hack]
        rfl
    | deaf | garbled | nothing => exact Or.inl rfl
  · exact Or.inl rfl

/-- Of all sockets a worker touches those of its next read only. -/
theorem sockets_act (b : Body) (x : Turn) :
    (b.act x).duty.sockets = b.duty.sockets ∨
      ∃ pair, b.nextRead = some pair ∧ (b.act x).duty.sockets = (b.duty.echo pair).sockets := by
  cases b with
  | loop s =>
    cases x with
    | work => exact sockets_work s
    | wait result =>
      left
      show (s.wait result).duty.sockets = s.duty.sockets
      unfold LoopRun.wait
      split
      · split
        · rfl
        · split <;> rfl
      · rfl
    | submit | fetch | handle => exact Or.inl rfl
  | ring s =>
    cases x with
    | handle h => exact sockets_handleNext s h
    | submit h =>
      left
      show (s.submit h).worker.duty.sockets = s.worker.duty.sockets
      unfold RingRun.submit
      split <;> rfl
    | fetch failure =>
      left
      show (s.fetch failure).worker.duty.sockets = s.worker.duty.sockets
      unfold RingRun.fetch
      split
      · split <;> rfl
      · rfl
    | wait | work => exact Or.inl rfl

theorem ending_of_nextRead (h : b.nextRead = some pair) : b.ending = .waiting := by
  cases b with
  | loop s =>
    unfold nextRead at h
    dsimp only at h
    split at h
    · assumption
    · cases h
  | ring s =>
    unfold nextRead at h
    dsimp only at h
    split at h
    · assumption
    · cases h

theorem nextRead_withDuty {d : Duty} (hwatched : d.watched = b.duty.watched) :
    (b.withDuty d).nextRead = b.nextRead := by
  cases b with
  | loop s => rfl
  | ring s =>
    have hsame : d.watched = s.worker.duty.watched := hwatched
    simp only [withDuty, RingRun.withDuty, nextRead, hsame]

theorem answer_keeps (b : Body) (token : UInt64) (result : Int32) :
    (b.answer token result).nextRead = b.nextRead ∧ (b.answer token result).duty = b.duty := by
  cases b with
  | loop s => exact ⟨rfl, rfl⟩
  | ring s =>
    unfold answer
    dsimp only
    split
    · exact ⟨rfl, rfl⟩
    · unfold RingRun.answer
      split <;> exact ⟨rfl, rfl⟩

theorem sockets_withSockets (b : Body) (sockets : Array SocketPair) :
    (b.withSockets sockets).duty.sockets = sockets := by
  cases b <;> rfl

theorem echoed_act (b : Body) (x : Turn) : Echoed b.duty.sockets (b.act x).duty.sockets := by
  rcases b.sockets_act x with hsame | ⟨pair, -, hechoed⟩
  · rw [hsame]
    exact .none
  · rw [hechoed]
    exact b.duty.echoed_echo pair

end Body

namespace Workshop

variable {s : Workshop} {k pair : Nat} {x : Move}

theorem echoed_turn (s : Workshop) (k : Nat) (x : Body.Turn) :
    Echoed s.bench.sockets (s.turn k x).bench.sockets := by
  unfold turn
  split
  · exact .none
  · rename_i id b _
    dsimp only
    split
    · exact .none
    · have hechoed := (b.withSockets s.bench.sockets).echoed_act x
      rw [b.sockets_withSockets] at hechoed
      exact hechoed

theorem echoed_serve (s : Workshop) (id pair : Nat) :
    Echoed s.bench.sockets (s.serve id pair).bench.sockets := by
  unfold serve
  split
  · exact .none
  · split
    · exact s.bench.echoed_echo pair _
    · exact .none

/-! ## Whose reads wait -/

/-- The move asks for a threads engine on pairs that can be had, with this one among them. -/
def AsksToWait (s : Workshop) (pair : Nat) (x : Move) : Prop :=
  ∃ p pairs, x = .create .threads p pairs ∧ p.exclusive = false ∧ pair ∈ pairs ∧
    pairs.all s.bench.isHeld = true

theorem blockingAt_create {m : Mechanism} {p : Plan} {pairs : List Nat}
    (h : blockingAt (s.create m p pairs).bench.sockets pair = true) :
    blockingAt s.bench.sockets pair = true ∨ s.AsksToWait pair (.create m p pairs) := by
  unfold create at h
  split at h
  · rename_i hheld
    have hcreated : blockingAt (m.backend.create p pairs s.bench).2.sockets pair = true := by
      split at h <;> rename_i heq <;> rw [heq] <;> exact h
    rw [m.create_backend] at hcreated
    rcases Bench.blockingAt_createEngine hcreated with hbefore | ⟨hblocks, hlisted⟩
    · exact Or.inl hbefore
    · rw [EngineRequest.blocksReads, Bool.and_eq_true, decide_eq_true_eq, Bool.not_eq_true']
        at hblocks
      rw [Bench.map_pair_request] at hlisted
      have hthreads : m = .threads := hblocks.1
      exact Or.inr ⟨p, pairs, by rw [hthreads], hblocks.2, hlisted, hheld⟩
  · exact Or.inl h

/-- Only such a move makes reads wait that did not wait before. -/
theorem blockingAt_step (h : blockingAt (s.step x).bench.sockets pair = true) :
    blockingAt s.bench.sockets pair = true ∨ s.AsksToWait pair x := by
  cases x with
  | create m p pairs => exact blockingAt_create h
  | openPairs count =>
    change blockingAt (Bench.openMore [] count s.bench).2.sockets pair = true at h
    rw [Bench.blockingAt_openMore] at h
    exact Or.inl h
  | dropPair q =>
    change blockingAt (s.bench.dropPair q).sockets pair = true at h
    rw [Bench.blockingAt_dropPair] at h
    exact Or.inl h
  | raise j => exact Or.inl h
  | destroy id =>
    left
    rw [step, destroy] at h
    split at h
    · change blockingAt (s.bench.destroyEngine id).sockets pair = true at h
      rw [Bench.sockets_destroyEngine] at h
      exact h
    · exact h
  | send q data =>
    change blockingAt (s.bench.send q data).2.sockets pair = true at h
    rw [Bench.blockingAt_send] at h
    exact Or.inl h
  | receive q n =>
    change blockingAt (s.bench.receive q n).2.sockets pair = true at h
    rw [Bench.blockingAt_receive] at h
    exact Or.inl h
  | shutdown q d =>
    have hkeeps : blockingAt (s.bench.sockets.modify q (·.shutdown .generator d)) =
        blockingAt s.bench.sockets := blockingAt_modify fun _ => rfl
    change blockingAt (s.bench.sockets.modify q (·.shutdown .generator d)) pair = true at h
    rw [hkeeps] at h
    exact Or.inl h
  | turn j x =>
    rw [step, (s.echoed_turn j x).blockingAt_eq] at h
    exact Or.inl h
  | answer j token result => exact Or.inl h
  | serve id q =>
    rw [step, (s.echoed_serve id q).blockingAt_eq] at h
    exact Or.inl h
  | grant left => exact Or.inl h

theorem blockingAt_run {moves : List Move}
    (h : blockingAt (s.run moves).bench.sockets pair = true) :
    blockingAt s.bench.sockets pair = true ∨
      ∃ before x after, moves = before ++ x :: after ∧ (s.run before).AsksToWait pair x := by
  induction moves generalizing s with
  | nil => exact Or.inl h
  | cons x rest ih =>
    rcases ih h with hstep | ⟨before, y, after, rfl, hasks⟩
    · rcases blockingAt_step hstep with hstart | hasks
      · exact Or.inl hstart
      · exact Or.inr ⟨[], x, rest, rfl, hasks⟩
    · exact Or.inr ⟨x :: before, y, after, rfl, hasks⟩

/-! ## Who waits goes on waiting -/

theorem waitsAt_eq_some_iff : s.waitsAt k = some pair ↔
    ∃ id b, s.workers[k]? = some (id, b) ∧ b.nextRead = some pair ∧ 0 < b.duty.buffer.size ∧
      Starves s.bench.sockets pair := by
  have hnext : ∀ b : Body, (b.withSockets s.bench.sockets).nextRead = b.nextRead := fun b =>
    Body.nextRead_withDuty rfl
  have hbuffer : ∀ b : Body, (b.withSockets s.bench.sockets).duty.buffer = b.duty.buffer := by
    intro b
    cases b <;> rfl
  unfold waitsAt
  rw [Option.bind_eq_some_iff]
  constructor
  · rintro ⟨⟨id, b⟩, hworker, hwaits⟩
    change (b.withSockets s.bench.sockets).waitsAt = some pair at hwaits
    rw [Body.waitsAt, Option.filter_eq_some_iff, hnext, hbuffer, b.sockets_withSockets,
      starves_iff] at hwaits
    exact ⟨id, b, hworker, hwaits.1, hwaits.2⟩
  · rintro ⟨id, b, hworker, hwaits⟩
    refine ⟨(id, b), hworker, ?_⟩
    show (b.withSockets s.bench.sockets).waitsAt = some pair
    rw [Body.waitsAt, Option.filter_eq_some_iff, hnext, hbuffer, b.sockets_withSockets,
      starves_iff]
    exact hwaits

/-- The move brings nothing to read on this pair. -/
def Move.spares (pair : Nat) : Move → Bool
  | .send q _ | .shutdown q _ | .dropPair q => q ≠ pair
  | _ => true

theorem starves_step (h : Starves s.bench.sockets pair) (hx : x.spares pair = true) :
    Starves (s.step x).bench.sockets pair := by
  cases x with
  | create m p pairs =>
    rw [step, create]
    split
    · have hcreated : Starves (m.backend.create p pairs s.bench).2.sockets pair := h.createEngine _
      split <;> rename_i heq <;> rw [heq] at hcreated <;> exact hcreated
    · exact h
  | openPairs count =>
    -- the pair is one of those that were there before
    obtain ⟨p, hp, -⟩ := id h
    have hlt : pair < s.bench.sockets.size := (Array.getElem?_eq_some_iff.mp hp).1
    exact h.congr (Bench.getElem?_openMore hlt List.not_mem_nil)
  | dropPair q =>
    refine h.congr (Bench.getElem?_dropPair_of_ne ?_)
    exact Ne.symm (of_decide_eq_true hx)
  | raise j => exact h
  | destroy id =>
    rw [step, destroy]
    split
    · exact h.congr (by rw [Bench.sockets_destroyEngine])
    · exact h
  | send q data => exact h.congr (Bench.getElem?_send_of_ne (Ne.symm (of_decide_eq_true hx)))
  | receive q n => exact h.receive q n
  | shutdown q d =>
    refine h.congr ?_
    show (s.bench.sockets.modify q _)[pair]? = _
    rw [Array.getElem?_modify, if_neg (of_decide_eq_true hx)]
  | turn j x => exact h.echoed (s.echoed_turn j x)
  | answer j token result => exact h
  | serve id q => exact h.echoed (s.echoed_serve id q)
  | grant left => exact h

theorem withWorker_keeps {f : Body → Body} (hnext : ∀ b : Body, (f b).nextRead = b.nextRead)
    (hbuffer : ∀ b : Body, (f b).duty.buffer = b.duty.buffer) (j : Nat) {id : Nat} {b : Body}
    (hworker : s.workers[k]? = some (id, b)) :
    ∃ b', (s.withWorker j f).workers[k]? = some (id, b') ∧ b'.nextRead = b.nextRead ∧
      b'.duty.buffer = b.duty.buffer := by
  rw [withWorker]
  by_cases hj : j = k
  · rw [hj, List.getElem?_modify_eq, hworker]
    exact ⟨f b, rfl, hnext b, hbuffer b⟩
  · refine ⟨b, ?_, rfl, rfl⟩
    exact (List.getElem?_modify_ne _ s.workers hj).trans hworker

/-- Neither its owner nor the kernel makes a worker that waits give up its read. -/
theorem worker_step (hwaits : s.waitsAt k = some pair) (x : Move) {id : Nat} {b : Body}
    (hworker : s.workers[k]? = some (id, b)) :
    ∃ b', (s.step x).workers[k]? = some (id, b') ∧ b'.nextRead = b.nextRead ∧
      b'.duty.buffer = b.duty.buffer := by
  cases x with
  | create m p pairs =>
    refine ⟨b, ?_, rfl, rfl⟩
    rw [step, create]
    split
    · split
      · exact (List.getElem?_append_left (List.getElem?_eq_some_iff.mp hworker).1).trans hworker
      · exact hworker
    · exact hworker
  | raise j =>
    apply withWorker_keeps
    · exact fun _ => Body.nextRead_withDuty rfl
    · intro b
      cases b <;> rfl
    · exact hworker
  | answer j token result =>
    apply withWorker_keeps
    · exact fun b => (b.answer_keeps token result).1
    · exact fun b => congrArg Duty.buffer (b.answer_keeps token result).2
    · exact hworker
  | destroy id' =>
    refine ⟨b, ?_, rfl, rfl⟩
    rw [step, destroy]
    split <;> exact hworker
  | turn j x =>
    refine ⟨b, ?_, rfl, rfl⟩
    rw [step, turn]
    split
    · exact hworker
    · rename_i id' b' hworker'
      dsimp only
      split
      · exact hworker
      · rename_i hruns
        by_cases hj : j = k
        -- it would be the turn of the worker that waits
        · rw [waitsAt, ← hj, hworker'] at hwaits
          change (b'.withSockets s.bench.sockets).waitsAt = some pair at hwaits
          rw [hwaits] at hruns
          exact absurd rfl hruns
        · rw [List.getElem?_set_ne hj]
          exact hworker
  | serve id' q =>
    refine ⟨b, ?_, rfl, rfl⟩
    rw [step, serve]
    split
    · exact hworker
    · split <;> exact hworker
  | openPairs | dropPair | send | receive | shutdown | grant => exact ⟨b, hworker, rfl, rfl⟩

theorem waitsAt_step (hwaits : s.waitsAt k = some pair) (hx : x.spares pair = true) :
    (s.step x).waitsAt k = some pair := by
  obtain ⟨id, b, hworker, hnext, hbuffer, hstarves⟩ := waitsAt_eq_some_iff.mp hwaits
  obtain ⟨b', hworker', hnext', hbuffer'⟩ := worker_step hwaits x hworker
  refine waitsAt_eq_some_iff.mpr ⟨id, b', hworker', hnext'.trans hnext, ?_, ?_⟩
  · rw [hbuffer']
    exact hbuffer
  · exact starves_step hstarves hx

theorem waitsAt_run {moves : List Move} (hwaits : s.waitsAt k = some pair)
    (hmoves : ∀ x ∈ moves, x.spares pair = true) :
    (s.run moves).waitsAt k = some pair ∧
      (s.run moves).workers[k]?.map Prod.fst = s.workers[k]?.map Prod.fst := by
  induction moves generalizing s with
  | nil => exact ⟨hwaits, rfl⟩
  | cons x rest ih =>
    have hstep := waitsAt_step hwaits (hmoves x List.mem_cons_self)
    obtain ⟨hrest, howner⟩ := ih hstep fun y hy => hmoves y (List.mem_cons_of_mem x hy)
    refine ⟨hrest, howner.trans ?_⟩
    obtain ⟨id, b, hworker, -⟩ := waitsAt_eq_some_iff.mp hwaits
    obtain ⟨b', hworker', -⟩ := worker_step hwaits x hworker
    rw [hworker, hworker']
    rfl

/-- As long as its worker waits, an engine is not destroyed. -/
theorem destroy_of_waitsAt {id : Nat} (hwaits : s.waitsAt k = some pair)
    (howner : s.workers[k]?.map Prod.fst = some id) : s.destroy id = s := by
  obtain ⟨id', b, hworker, hnext, -⟩ := waitsAt_eq_some_iff.mp hwaits
  rw [hworker, Option.map_some, Option.some.injEq] at howner
  refine if_neg fun hall => ?_
  have hended := List.all_eq_true.mp hall _ (List.mem_of_getElem? hworker)
  simp [Body.ending_of_nextRead hnext] at hended
  exact hended howner

/-- **A read waits only where a threads engine has been asked for.** A worker with poll, select,
epoll or a ring whose next read would wait is on a pair for which a threads engine has been asked,
with whatever success. Nothing that its owner or other workers do gets it out, and its engine is not
destroyed before the generator writes or hangs up. -/
theorem waiting_run (table : DescriptorTable) (shortages : List (Option Failure))
    (moves : List Move) (k pair : Nat)
    (hwaits : (run { bench := { table, shortages } } moves).waitsAt k = some pair) :
    (∃ before x after, moves = before ++ x :: after ∧
        (run { bench := { table, shortages } } before).AsksToWait pair x) ∧
      ∀ more : List Move, (∀ x ∈ more, x.spares pair = true) →
        let later := run { bench := { table, shortages } } (moves ++ more)
        later.waitsAt k = some pair ∧
          ∀ id, later.workers[k]?.map Prod.fst = some id → later.destroy id = later := by
  constructor
  · obtain ⟨-, -, -, -, -, hstarves⟩ := waitsAt_eq_some_iff.mp hwaits
    rcases blockingAt_run hstarves.blockingAt_eq with hstart | hasked
    -- there is no pair to begin with
    · cases hstart
    · exact hasked
  · intro more hmore later
    have hlater : later.waitsAt k = some pair := by
      rw [show later = _ from run_append _ moves more]
      exact (waitsAt_run hwaits hmore).1
    exact ⟨hlater, fun id howner => destroy_of_waitsAt hlater howner⟩

/-- There is no memory for the threads, but the pair has been made to wait. Two epoll engines are
told of the same byte then, and the second is too late. -/
theorem waiting_run_lost_race :
    let p : Plan := ⟨.epoll, 1, 1, 4, false, usualDuration, by decide, by decide, by decide,
      by decide, by decide⟩
    let shortages : List (Option Failure) := [some (.worded .outOfMemory "no memory")]
    let moves : List Move := [.openPairs 1, .create .threads p [0], .create .epoll p [0],
      .create .epoll p [0], .send 0 [7], .turn 0 (.wait (.ok (.tokens [0]))),
      .turn 1 (.wait (.ok (.tokens [0]))), .turn 0 .work]
    let start : Workshop := { bench := { table := .initial, shortages } }
    (run start (moves.take 2)).bench.watchers.length = 0 ∧ (run start moves).waitsAt 1 = some 0 ∧
      (∃ before x after, moves = before ++ x :: after ∧ (run start before).AsksToWait 0 x) ∧
      let later := run start (moves ++ [.raise 1, .receive 0 1, .turn 1 .work])
      later.waitsAt 1 = some 0 ∧ later.destroy 1 = later := by
  intro p shortages moves start
  have hwaits : (run start moves).waitsAt 1 = some 0 := by decide
  obtain ⟨hasked, hmore⟩ := waiting_run .initial shortages moves 1 0 hwaits
  obtain ⟨hlater, hkept⟩ := hmore [.raise 1, .receive 0 1, .turn 1 .work] (by decide)
  exact ⟨by decide, hwaits, hasked, hlater, hkept 1 (by decide)⟩

/-- **A poll worker can wait outside its wait.** A threads engine has come and gone; a poll engine
lists the pair twice. Its wait reports truly that both slots are readable, the first echo takes the
only byte, and the second read waits, whatever the owner asks. The engine cannot be destroyed. -/
theorem not_only_waits_pair_twice :
    let p : Plan := ⟨.poll, 1, 1, 1, false, usualDuration, by decide, by decide, by decide,
      by decide, by decide⟩
    let calls : List Move := [.openPairs 1, .create .threads p [0], .destroy 0,
      .create .poll p [0, 0], .send 0 [7]]
    let stop : PollSlot := .report 5 false
    let slots : List PollSlot := [.report 3 true, .report 3 true]
    let wakeUp : List Move := [.turn 0 (.wait (.ok (.slots stop slots))), .turn 0 .work]
    let asked (n : Nat) : List Move := .raise 0 :: List.replicate n (.turn 0 .work)
    let called : Workshop := run { bench := {} } calls
    (called.bench.watchers.map fun (id, w) =>
        (id, w.mechanism, w.pollReport (w.duty called.bench.sockets))) =
      [(1, .poll, stop, slots)] ∧
      (run called wakeUp).waitsAt 0 = some 0 ∧
      ∀ n, let later := run called (wakeUp ++ asked n)
        later.waitsAt 0 = some 0 ∧ later.destroy 1 = later := by
  intro p calls stop slots wakeUp asked called
  have hwaits : (run called wakeUp).waitsAt 0 = some 0 := by decide
  refine ⟨by decide, hwaits, fun n => ?_⟩
  have hspares : ∀ x ∈ asked n, x.spares 0 = true := by
    intro x hx
    rcases List.mem_cons.mp hx with rfl | hx
    · rfl
    · rw [List.eq_of_mem_replicate hx]
      rfl
  obtain ⟨hlater, howner⟩ := waitsAt_run hwaits hspares
  have hfirst : (run called wakeUp).workers[0]?.map Prod.fst = some 1 := by decide
  rw [run_append]
  exact ⟨hlater, destroy_of_waitsAt hlater (howner.trans hfirst)⟩

end Workshop

end ReadinessBench

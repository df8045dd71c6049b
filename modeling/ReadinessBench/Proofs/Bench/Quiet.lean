import ReadinessBench.Proofs.Bench.Moments
import ReadinessBench.Proofs.Bench.Script

/-!
# What is quiet about engines

Everything but the creation and the destruction of engines leaves the same engines at work and has
nothing to say about them in the journal. What holds as long as it is kept by these two holds after
fleets and whole runs, on any backend.
-/

namespace ReadinessBench

namespace Event

/-- The engine that has been started, if that is what happened. -/
def started? : Event → Option String
  | engineStarted engine | workersStarted engine _ => some engine
  | _ => none

/-- The engine that has been stopped, if that is what happened. -/
def stopped? : Event → Option String
  | engineStopped engine | workersStopped engine => some engine
  | _ => none

/-- Readers of the journal tell by the text and by the field. -/
theorem started?_eq_some_iff {e : Event} {engine : String} :
    e.started? = some engine ↔
      e.message = "engine started" ∧ ("engine", FieldValue.word engine) ∈ e.fields := by
  cases e <;> simp [started?, message, fields, eq_comm]

theorem stopped?_eq_some_iff {e : Event} {engine : String} :
    e.stopped? = some engine ↔
      e.message = "engine stopped" ∧ ("engine", FieldValue.word engine) ∈ e.fields := by
  cases e <;> simp [stopped?, message, fields, eq_comm]

/-- Neither a start nor a stop. -/
def isQuiet (e : Event) : Prop := e.started? = none ∧ e.stopped? = none

end Event

namespace Watcher

theorem started?_startEvent (w : Watcher) : w.startEvent.started? = some w.mechanism.name := by
  unfold startEvent
  split <;> rfl

theorem stopped?_startEvent (w : Watcher) : w.startEvent.stopped? = none := by
  unfold startEvent
  split <;> rfl

theorem started?_stopEvent (w : Watcher) : w.stopEvent.started? = none := by
  unfold stopEvent
  split <;> rfl

theorem stopped?_stopEvent (w : Watcher) : w.stopEvent.stopped? = some w.mechanism.name := by
  unfold stopEvent
  split <;> rfl

end Watcher

namespace Bench

variable {b b' c : Bench}

theorem journal_unshare (b : Bench) (pair : Nat) : (b.unshare pair).journal = b.journal := by
  unfold unshare
  split
  · rfl
  · dsimp only
    split <;> rfl

/-- The same engines are at work, and nothing has been said of any engine that would be new. -/
structure Quiet (b b' : Bench) : Prop where
  tenants : b'.tenants = b.tenants
  nextWatcher : b'.nextWatcher = b.nextWatcher
  journal : ∃ events, b'.journal.toList = b.journal.toList ++ events ∧ ∀ e ∈ events, e.isQuiet

namespace Quiet

theorem of_same (htenants : b'.tenants = b.tenants) (hnext : b'.nextWatcher = b.nextWatcher)
    (hjournal : b'.journal = b.journal) : Quiet b b' :=
  ⟨htenants, hnext, [], by rw [hjournal, List.append_nil], nofun⟩

theorem refl (b : Bench) : Quiet b b := of_same rfl rfl rfl

theorem trans (h : Quiet b b') (h' : Quiet b' c) : Quiet b c := by
  obtain ⟨first, hfirst, hquiet⟩ := h.journal
  obtain ⟨second, hsecond, hquiet'⟩ := h'.journal
  refine ⟨h'.tenants.trans h.tenants, h'.nextWatcher.trans h.nextWatcher, first ++ second, ?_, ?_⟩
  · rw [hsecond, hfirst, List.append_assoc]
  · exact List.forall_mem_append.mpr ⟨hquiet, hquiet'⟩

theorem record {e : Event} (he : e.isQuiet) (b : Bench) : Quiet b (b.record e) :=
  ⟨rfl, rfl, [e], Array.toList_push, List.forall_mem_singleton.mpr he⟩

theorem of_sameBooks (h : SameBooks b b') (hjournal : b'.journal = b.journal) : Quiet b b' :=
  of_same h.tenants h.nextWatcher hjournal

/-! ## Traffic -/

theorem send (b : Bench) (pair : Nat) (data : Bytes) : Quiet b (b.send pair data).2 := by
  refine of_sameBooks (SameBooks.send b pair data) ?_
  unfold Bench.send
  split
  · rfl
  · split <;> rfl

theorem reply (b : Bench) (pair : Nat) (data : Bytes) : Quiet b (b.reply pair data).2 := by
  refine of_sameBooks (SameBooks.reply b pair data) ?_
  unfold Bench.reply
  split
  · rfl
  · split <;> rfl

theorem receive (b : Bench) (pair n : Nat) : Quiet b (b.receive pair n).2 := by
  refine of_sameBooks (SameBooks.receive b pair n) ?_
  unfold Bench.receive
  split <;> rfl

theorem accept (b : Bench) (pair n : Nat) : Quiet b (b.accept pair n).2 := by
  refine of_sameBooks (SameBooks.accept b pair n) ?_
  unfold Bench.accept
  split <;> rfl

theorem echo (b : Bench) (pair : Nat) (buffer : Buffer) : Quiet b (b.echo pair buffer).2.2 := by
  refine of_sameBooks (SameBooks.echo b pair buffer) ?_
  unfold Bench.echo
  split <;> rfl

theorem settle (b : Bench) : Quiet b b.settle := of_sameBooks (SameBooks.settle b) rfl

theorem keptByCalls : KeptByCalls Quiet where
  refl := refl
  trans := trans
  send := send
  receive := receive
  settle := settle
  cancel _ := of_same rfl rfl rfl
  faulted _ _ := record ⟨rfl, rfl⟩ _
  finished _ _ := record ⟨rfl, rfl⟩ _

theorem errand (b : Bench) (e : Errand) : Quiet b (b.runErrand e) := by
  cases e with
  | send pair data => exact send b pair data
  | receive pair n => exact receive b pair n
  | reply pair data => exact reply b pair data
  | accept pair n => exact accept b pair n
  | echo pair buffer => exact echo b pair buffer
  | settle => exact settle b
  | shutdown pair e d => exact of_same rfl rfl rfl
  | setBlocking pair => exact of_same rfl rfl rfl
  | drive w pairs draw roundTrips => exact keptByCalls.drive b w pairs draw roundTrips
  | cancel => exact of_same rfl rfl rfl

/-! ## Pairs and memory -/

theorem unshare (b : Bench) (pair : Nat) : Quiet b (b.unshare pair) := by
  have hshares := SharesOnly.unshare b pair
  exact of_same hshares.tenants hshares.nextWatcher (b.journal_unshare pair)

theorem dropPair (b : Bench) (pair : Nat) : Quiet b (b.dropPair pair) := by
  cases hpair : b.isHeld pair with
  | false =>
    rw [dropPair_of_not_held hpair]
    exact refl b
  | true =>
    obtain ⟨h, hh, hheld⟩ := holds_iff.mp hpair
    let closed : Bench := { b with
      table := b.table.closeAll [h.generatorNumber]
      sockets := b.sockets.modify pair (·.shutdown .generator .both)
      holdings := b.holdings.modify pair .letGo }
    have hclosed : Quiet b closed := of_same rfl rfl rfl
    rw [dropPair_of_held hh hheld]
    exact hclosed.trans (unshare closed pair)

theorem dropAll (b : Bench) (pairs : List Nat) : Quiet b (pairs.foldl Bench.dropPair b) := by
  induction pairs generalizing b with
  | nil => exact refl b
  | cons pair rest ih => exact (dropPair b pair).trans (ih _)

theorem openMore (b : Bench) (made : List Nat) (n : Nat) : Quiet b (openMore made n b).2 := by
  induction n generalizing b made with
  | zero => exact record ⟨rfl, rfl⟩ b
  | succ n ih =>
    rw [Bench.openMore]
    split
    · next engine generator table hopen =>
      have hadded : Quiet b (b.addPair engine generator table) := of_same rfl rfl rfl
      exact hadded.trans (ih _ _)
    · exact dropAll b made

theorem allocate (b : Bench) (size : Nat) : Quiet b (b.allocate size).2 := by
  unfold Bench.allocate
  split
  · exact refl b
  · exact of_same rfl rfl rfl

theorem arm (b : Bench) : Quiet b b.arm.2 := of_same rfl rfl rfl

theorem prepare (b : Bench) (pairs messageSize : Nat) :
    Quiet b (b.prepare pairs messageSize).2 := by
  have hasked := allocate b messageSize
  unfold Bench.prepare
  split
  · exact refl b
  · split
    · exact refl b
    · split <;> rename_i heq <;> rw [heq] at hasked <;> exact hasked

end Quiet
end Bench

/-! ## Backends -/

open Bench (Quiet)

/-- What creations and destructions keep, and whatever is quiet about engines. -/
structure Backend.Keeps {State : Type} (k : Backend State) (I : State → Prop) : Prop where
  create : ∀ p pairs s, I s → I (k.create p pairs s).2
  destroy : ∀ e s, I s → I (k.destroy e s)
  setBench : ∀ s b, I s → Quiet (k.bench s) b → I (k.setBench b s)

namespace Backend.Keeps

variable {State : Type} {k : Backend State} {I : State → Prop} {p : Plan} {pairs : List Nat}
  {s s' : State}

theorem record (hk : k.Keeps I) {e : Event} (he : e.isQuiet) (h : I s) : I (k.record e s) :=
  hk.setBench s _ h (Quiet.record he _)

theorem dropPairs (hk : k.Keeps I) (h : I s) (pairs : List Nat) :
    I (k.update (·.dropPairs pairs) s) :=
  hk.setBench s _ h (Quiet.dropAll _ _)

theorem destroyAll (hk : k.Keeps I) (h : I s) (engines : List EngineHandle) :
    I (k.destroyAll engines s) := by
  induction engines generalizing s with
  | nil => exact h
  | cons e rest ih => exact ih (hk.destroy e s h)

theorem extend (hk : k.Keeps I) (h : I s) (p : Plan) (pairs : List Nat)
    (made : List EngineHandle) (n : Nat) : I (Fleet.extend k p pairs made n s).2 := by
  induction n generalizing made s with
  | zero => exact h
  | succ n ih =>
    have hcreated := hk.create p pairs s h
    rw [Fleet.extend]
    split <;> rename_i heq <;> rw [heq] at hcreated
    · exact ih hcreated _
    · exact hk.destroyAll (hk.record ⟨rfl, rfl⟩ hcreated) made

theorem createFleet (hk : k.Keeps I) {count : Nat} {result : Except BenchError Fleet} (h : I s)
    (hcreate : Fleet.create k p count pairs s = .ok (result, s')) : I s' := by
  have hextended := hk.extend h p pairs [] count
  rw [Fleet.create] at hcreate
  split at hcreate
  · rw [Except.ok.inj hcreate] at hextended
    exact hextended
  · cases hcreate

theorem begin (hk : k.Keeps I) {result : Except BenchError Underway} (h : I s)
    (hbegin : k.begin p s = .ok (result, s')) : I s' := by
  have hstarting := hk.record (e := .runStarting k.name p) ⟨rfl, rfl⟩ h
  -- the pairs are there, or have been dropped again
  have hopened {s : State} {result : Except BenchError (List Nat)} {b : Bench} (h : I s)
      (hpairs : (k.bench s).openPairs p.pairs = (result, b)) : I (k.setBench b s) := by
    have hquiet := Quiet.openMore (k.bench s) [] p.pairs
    change Quiet _ ((k.bench s).openPairs p.pairs).2 at hquiet
    rw [hpairs] at hquiet
    exact hk.setBench s b h hquiet
  have hprepared {s : State} {n size : Nat} {result : Except BenchError Workload} {b : Bench}
      (h : I s) (hworkload : (k.bench s).prepare n size = (result, b)) : I (k.setBench b s) := by
    have hquiet := Quiet.prepare (k.bench s) n size
    rw [hworkload] at hquiet
    exact hk.setBench s b h hquiet
  have harmed {s : State} {n size : Nat} {w : Workload} {b b' : Bench} {refusal : Option BenchError}
      (h : I s) (hworkload : (k.bench s).prepare n size = (.ok w, b))
      (htimer : b.arm = (refusal, b')) : I (k.setBench b' s) := by
    have hquiet := Quiet.prepare (k.bench s) n size
    have harmed := Quiet.arm b
    rw [hworkload] at hquiet
    rw [htimer] at harmed
    exact hk.setBench s b' h (hquiet.trans harmed)
  cases begin_cases hbegin with
  | noPairs hpairs => exact hopened hstarting hpairs
  | noEngines hpairs hengines =>
    exact hk.dropPairs (hk.createFleet (hopened hstarting hpairs) hengines) _
  | noWorkload hpairs hengines hworkload =>
    have hmade := hk.createFleet (hopened hstarting hpairs) hengines
    exact hk.dropPairs (hk.destroyAll (hprepared hmade hworkload) _) _
  | noTimer hpairs hengines hworkload htimer =>
    have hmade := hk.createFleet (hopened hstarting hpairs) hengines
    exact hk.dropPairs (hk.destroyAll (harmed hmade hworkload htimer) _) _
  | ready hpairs hengines hworkload htimer =>
    exact harmed (hk.createFleet (hopened hstarting hpairs) hengines) hworkload htimer

theorem conclude (hk : k.Keeps I) (u : Underway) {t : Traffic} (h : I s)
    (hreport : Quiet (k.bench s) t.report) : I (k.conclude u t s) :=
  hk.record ⟨rfl, rfl⟩ (hk.dropPairs (hk.destroyAll (hk.setBench s _ h hreport) _) _)

theorem run (hk : k.Keeps I) {draw : Draw} {patience : Patience}
    {result : Except BenchError TrafficEnd} (h : I s)
    (hrun : k.run p draw patience s = .ok (result, s')) : I s' := by
  rw [Backend.run] at hrun
  split at hrun
  · cases hrun
  · next hbegin =>
    cases hrun
    exact hk.begin h hbegin
  · next u s hbegin =>
    cases hrun
    exact hk.conclude u (hk.begin h hbegin)
      (Quiet.keptByCalls.drive (k.bench s) u.workload u.pairs draw
        (patience.limit (k.bench s) u.pairs))

end Backend.Keeps

end ReadinessBench

import ReadinessBench.Bench.Run
import ReadinessBench.Proofs.Bench.Fleets
import ReadinessBench.Proofs.Bench.Traffic
import ReadinessBench.Proofs.Descriptor.Budget

/-!
# From call to call

The setup of a run, and all that it is made of, is one call on the table after the other: it opens
what is free and closes what is open, also where it fails half-way.
-/

namespace ReadinessBench

open DescriptorTable (Calls)

namespace Backend

variable {State : Type} {k : Backend State} {p : Plan} {s s' : State}

/-- How the setup of a run may end. -/
inductive Begun (k : Backend State) (p : Plan) (s : State) :
    Except BenchError Underway → State → Prop where
  | noPairs {e : BenchError} {b : Bench}
    (hpairs : (k.bench s).openPairs p.pairs = (.error e, b)) :
    Begun k p s (.error e) (k.setBench b s)
  | noEngines {pairs : List Nat} {b : Bench} {e : BenchError} {s' : State}
    (hpairs : (k.bench s).openPairs p.pairs = (.ok pairs, b))
    (hengines : Fleet.create k p p.engines pairs (k.setBench b s) = .ok (.error e, s')) :
    Begun k p s (.error e) (k.update (·.dropPairs pairs) s')
  | noWorkload {pairs : List Nat} {b b' : Bench} {fleet : Fleet} {e : BenchError} {s' : State}
    (hpairs : (k.bench s).openPairs p.pairs = (.ok pairs, b))
    (hengines : Fleet.create k p p.engines pairs (k.setBench b s) = .ok (.ok fleet, s'))
    (hworkload : (k.bench s').prepare pairs.length p.messageSize = (.error e, b')) :
    Begun k p s (.error e) (k.update (·.dropPairs pairs) (fleet.destroy k (k.setBench b' s')))
  | noTimer {pairs : List Nat} {b b' b'' : Bench} {fleet : Fleet} {workload : Workload}
    {e : BenchError} {s' : State}
    (hpairs : (k.bench s).openPairs p.pairs = (.ok pairs, b))
    (hengines : Fleet.create k p p.engines pairs (k.setBench b s) = .ok (.ok fleet, s'))
    (hworkload : (k.bench s').prepare pairs.length p.messageSize = (.ok workload, b'))
    (htimer : b'.arm = (some e, b'')) :
    Begun k p s (.error e) (k.update (·.dropPairs pairs) (fleet.destroy k (k.setBench b'' s')))
  | ready {pairs : List Nat} {b b' b'' : Bench} {fleet : Fleet} {workload : Workload} {s' : State}
    (hpairs : (k.bench s).openPairs p.pairs = (.ok pairs, b))
    (hengines : Fleet.create k p p.engines pairs (k.setBench b s) = .ok (.ok fleet, s'))
    (hworkload : (k.bench s').prepare pairs.length p.messageSize = (.ok workload, b'))
    (htimer : b'.arm = (none, b'')) :
    Begun k p s (.ok { pairs, fleet, workload }) (k.setBench b'' s')

theorem begin_of_begun {result : Except BenchError Underway}
    (h : Begun k p (k.record (.runStarting k.name p) s) result s') :
    k.begin p s = .ok (result, s') := by
  cases h with
  | noPairs hpairs => simp only [Backend.begin, hpairs]
  | noEngines hpairs hengines => simp only [Backend.begin, hpairs, hengines]
  | noWorkload hpairs hengines hworkload => simp only [Backend.begin, hpairs, hengines, hworkload]
  | noTimer hpairs hengines hworkload htimer =>
    simp only [Backend.begin, hpairs, hengines, hworkload, htimer]
  | ready hpairs hengines hworkload htimer =>
    simp only [Backend.begin, hpairs, hengines, hworkload, htimer]

theorem begin_cases {result : Except BenchError Underway} (h : k.begin p s = .ok (result, s')) :
    Begun k p (k.record (.runStarting k.name p) s) result s' := by
  unfold Backend.begin at h
  dsimp only at h
  split at h
  · rename_i hpairs
    cases h
    exact .noPairs hpairs
  · rename_i hpairs
    split at h
    · cases h
    · rename_i hengines
      cases h
      exact .noEngines hpairs hengines
    · rename_i hengines
      split at h <;> rename_i hworkload
      · cases h
        exact .noWorkload hpairs hengines hworkload
      · split at h <;> rename_i htimer <;> cases h
        · exact .noTimer hpairs hengines hworkload htimer
        · exact .ready hpairs hengines hworkload htimer

end Backend

namespace Bench

variable {b b' c : Bench} {base rest opened numbers : List Nat} {pair : Nat} {m : Mechanism}
  {p : Plan} {pairs : List Nat}

/-- A loop in which every turn keeps the books and goes from call to call. -/
theorem Booked.calls_foldl {α : Type} {g : Bench → α → Bench} (hb : b.Booked base)
    (hg : ∀ b x, Booked base b → (g b x).Booked base ∧ Calls b.table (g b x).table)
    (xs : List α) : Calls b.table (xs.foldl g b).table := by
  induction xs generalizing b with
  | nil => exact Relation.ReflTransGen.refl
  | cons x rest ih =>
    obtain ⟨hnext, hcalls⟩ := hg b x hb
    exact hcalls.trans (ih hnext)

/-! ## Pairs -/

theorem calls_unshare (h : b.table.Accounts (b.endNumbers ++ rest)) :
    Calls b.table (b.unshare pair).table := by
  rcases b.unshare_cases pair with ⟨htable, -⟩ | ⟨n, htable, hends⟩
  · rw [htable]
  · have hopen := h.perm (hends.append_right rest)
    rw [List.append_assoc] at hopen
    rw [htable]
    exact Calls.closeAll hopen

theorem calls_unshareAll (pairs : List Nat) (h : b.table.Accounts (b.endNumbers ++ rest)) :
    Calls b.table (pairs.foldl unshare b).table := by
  induction pairs generalizing b with
  | nil => exact Relation.ReflTransGen.refl
  | cons pair more ih => exact (calls_unshare h).trans (ih (accounts_unshare h))

theorem Booked.calls_dropPair (hb : b.Booked base) (pair : Nat) :
    Calls b.table (b.dropPair pair).table := by
  cases hpair : b.isHeld pair with
  | false => rw [dropPair_of_not_held hpair]
  | true =>
    obtain ⟨h, hh, hheld⟩ := holds_iff.mp hpair
    let closed : Bench := { b with
      table := b.table.closeAll [h.generatorNumber]
      sockets := b.sockets.modify pair (·.shutdown .generator .both)
      holdings := b.holdings.modify pair .letGo }
    have hends : b.endNumbers.Perm ([h.generatorNumber] ++ closed.endNumbers) :=
      endNumbers_modify hh (by rw [Holding.numbers_letGo hheld]) rfl
    have hopen := hb.numbers.perm (hends.append_right (b.ownNumbers ++ base))
    rw [List.append_assoc] at hopen
    rw [dropPair_of_held hh hheld]
    exact (Calls.closeAll hopen).trans (calls_unshare (b := closed) hopen.closeAll)

theorem Booked.calls_dropAll (hb : b.Booked base) (pairs : List Nat) :
    Calls b.table (pairs.foldl Bench.dropPair b).table :=
  hb.calls_foldl (fun _ pair h => ⟨h.dropPair pair, h.calls_dropPair pair⟩) pairs

theorem Booked.calls_openMore (hb : b.Booked base) (made : List Nat) (n : Nat) :
    Calls b.table (Bench.openMore made n b).2.table := by
  induction n generalizing b made with
  | zero => exact Relation.ReflTransGen.refl
  | succ n ih =>
    rw [Bench.openMore]
    split
    · rename_i hopen
      exact Relation.ReflTransGen.head (.openTwo hopen) (ih (hb.addPair hopen) _)
    · exact hb.calls_dropAll made

/-! ## Engines -/

theorem calls_performAll {r : EngineRequest} {steps : List SetupStep}
    (hopened : Acquired c b opened) (hc : c.table.Accounts numbers) :
    Calls b.table (r.performAll opened b steps).2.table := by
  induction steps generalizing opened b with
  | nil => exact Relation.ReflTransGen.refl
  | cons step rest ih =>
    rw [EngineRequest.performAll]
    cases hstep : r.perform opened b step with
    | mk done next =>
      rcases perform_cases hstep with ⟨n, hopen, rfl, -⟩ | ⟨hsame, ⟨rfl, -⟩ | ⟨e, rfl⟩⟩
      · have hcall : DescriptorTable.Call b.table next.table := by
          unfold Bench.openOne at hopen
          cases htable : b.table.openOne with
          | error f =>
            rw [htable] at hopen
            cases hopen
          | ok result =>
            rw [htable] at hopen
            cases hopen
            exact .openOne htable
        exact Relation.ReflTransGen.head hcall (ih (hopened.trans (Acquired.openOne hopen)))
      · have hnext := ih (hopened.trans (Acquired.of_sameBooks hsame))
        rw [hsame.table] at hnext
        exact hnext
      -- what earlier steps have opened is closed again
      · have hfailed := hopened.trans (Acquired.of_sameBooks hsame)
        rw [List.append_nil] at hfailed
        have hclosed := Calls.closeAll (hfailed.accounts numbers hc)
        rw [hsame.table] at hclosed
        show Calls b.table (next.table.closeAll opened)
        rw [hsame.table]
        exact hclosed

theorem Booked.calls_createEngine (hb : b.Booked base) (r : EngineRequest) :
    Calls b.table (b.createEngine r).2.table := by
  have hset : Calls b.table (r.performAll [] b r.mechanism.setup).2.table :=
    calls_performAll (Acquired.of_sameBooks (SameBooks.refl b)) hb.numbers
  unfold createEngine
  cases hresult : r.performAll [] b r.mechanism.setup with
  | mk done next =>
    rw [hresult] at hset
    cases done with
    | error e => exact hset
    | ok owned =>
      simp only [shareWatched_eq]
      exact hset

theorem Booked.calls_destroyEngine (hb : b.Booked base) (id : Nat) :
    Calls b.table (b.destroyEngine id).table := by
  unfold Bench.destroyEngine
  split
  · exact Relation.ReflTransGen.refl
  · rename_i w hlookup
    obtain ⟨before, after, hwatchers, -⟩ := List.lookup_eq_some_iff.mp hlookup
    have hmem : w.tenant id ∈ b.tenants := by
      rw [tenants, hwatchers]
      exact List.mem_map.mpr ⟨(id, w), by simp, rfl⟩
    -- the engine's own descriptors are closed before it gives back its shares
    have hown : b.ownNumbers.Perm
        (w.owned ++ (b.tenants.filter (·.id != id)).flatMap Tenant.owned) :=
      (perm_cons_filter hb.distinct hmem).flatMap_right Tenant.owned
    have hopen := hb.numbers.perm ((hown.append_right base).append_left b.endNumbers)
    rw [List.append_assoc] at hopen
    have hfirst := hopen.perm (List.perm_append_comm_assoc _ _ _)
    dsimp only
    rw [← List.foldl_map]
    exact (Calls.closeAll hfirst).trans (calls_unshareAll
      (b := { b with
        watchers := b.watchers.filter (·.1 ≠ id)
        table := b.table.closeAll w.owned }) _ hfirst.closeAll)

theorem Booked.calls_destroyAll (hb : b.Booked base) (engines : List EngineHandle) :
    Calls b.table (m.backend.destroyAll engines b).table :=
  hb.calls_foldl (fun _ e h => ⟨h.destroyEngine e.id, h.calls_destroyEngine e.id⟩) engines

theorem Booked.calls_extend (hb : b.Booked base) (hheld : ∀ q ∈ pairs, b.isHeld q = true)
    (made : List EngineHandle) (n : Nat) :
    Calls b.table (Fleet.extend m.backend p pairs made n b).2.table := by
  induction n generalizing made b with
  | zero => exact Relation.ReflTransGen.refl
  | succ n ih =>
    have hcalls : Calls b.table (m.backend.create p pairs b).2.table := by
      rw [m.create_backend]
      exact hb.calls_createEngine _
    rw [Fleet.extend]
    cases hcreate : m.backend.create p pairs b with
    | mk outcome next =>
      rw [hcreate] at hcalls
      have hcreated : Created pairs b next outcome := m.onBench.create hcreate
      have hbooked := hcreated.booked hb hheld
      cases outcome with
      | error e =>
        have hrecorded := (SameBooks.record next
          (.creationRolledBack m.backend.name made.length made.length e)).booked hbooked
        exact hcalls.trans (hrecorded.calls_destroyAll made)
      | ok engine =>
        exact hcalls.trans (ih hbooked (fun q hq => (hcreated.isHeld_eq q).trans (hheld q hq)) _)

/-! ## The setup of a run -/

theorem SameBooks.arm (b : Bench) : SameBooks b b.arm.2 := ⟨rfl, rfl, rfl, rfl, rfl⟩

theorem SameBooks.prepare (b : Bench) (pairs messageSize : Nat) :
    SameBooks b (b.prepare pairs messageSize).2 := by
  have hasked := allocate b messageSize
  unfold Bench.prepare
  split
  · exact refl b
  · split
    · exact refl b
    · split
      · rename_i heq
        rw [heq] at hasked
        exact hasked
      · rename_i heq
        rw [heq] at hasked
        exact hasked

/-- A moment to which calls have led and at which the books are right. -/
structure Reached (base : List Nat) (b c : Bench) : Prop where
  booked : c.Booked base
  calls : Calls b.table c.table

namespace Reached

variable {d : Bench}

theorem refl (hb : b.Booked base) : Reached base b b := ⟨hb, Relation.ReflTransGen.refl⟩

theorem same (h : Reached base b c) (hsame : SameBooks c d) : Reached base b d :=
  ⟨hsame.booked h.booked, hsame.table ▸ h.calls⟩

theorem dropAll (h : Reached base b c) (pairs : List Nat) :
    Reached base b (pairs.foldl dropPair c) :=
  ⟨h.booked.dropAll pairs, h.calls.trans (h.booked.calls_dropAll pairs)⟩

theorem destroyAll (h : Reached base b c) (engines : List EngineHandle) :
    Reached base b (m.backend.destroyAll engines c) :=
  ⟨.destroyAll m.onBench h.booked engines, h.calls.trans (h.booked.calls_destroyAll engines)⟩

theorem openPairs {count : Nat} {result : Except BenchError (List Nat)} (h : Reached base b c)
    (hpairs : c.openPairs count = (result, d)) : Reached base b d := by
  have hcalls : Calls c.table (c.openPairs count).2.table := h.booked.calls_openMore [] count
  rw [hpairs] at hcalls
  exact ⟨h.booked.of_openPairs hpairs, h.calls.trans hcalls⟩

theorem createFleet {count : Nat} {result : Except BenchError Fleet} (h : Reached base b c)
    (hheld : ∀ q ∈ pairs, c.isHeld q = true)
    (hengines : Fleet.create m.backend p count pairs c = .ok (result, d)) : Reached base b d := by
  have hcalls := h.booked.calls_extend (m := m) (p := p) hheld [] count
  refine ⟨Fleet.create_booked m.onBench h.booked hheld hengines, h.calls.trans ?_⟩
  unfold Fleet.create at hengines
  split at hengines
  · rw [Except.ok.inj hengines] at hcalls
    exact hcalls
  · cases hengines

theorem prepare {count size : Nat} {result : Except BenchError Workload} (h : Reached base b c)
    (hworkload : c.prepare count size = (result, d)) : Reached base b d := by
  have hsame := SameBooks.prepare c count size
  rw [hworkload] at hsame
  exact h.same hsame

theorem arm {refusal : Option BenchError} (h : Reached base b c)
    (htimer : c.arm = (refusal, d)) : Reached base b d := by
  have hsame := SameBooks.arm c
  rw [htimer] at hsame
  exact h.same hsame

/-- However the setup of a run ends. -/
theorem begun {result : Except BenchError Underway} (h : Reached base b c)
    (hbegun : Backend.Begun m.backend p c result d) : Reached base b d := by
  cases hbegun with
  | noPairs hpairs => exact h.openPairs hpairs
  | noEngines hpairs hengines =>
    exact ((h.openPairs hpairs).createFleet (h.booked.isHeld_openPairs hpairs) hengines).dropAll _
  | noWorkload hpairs hengines hworkload =>
    have hmade := (h.openPairs hpairs).createFleet (h.booked.isHeld_openPairs hpairs) hengines
    exact ((hmade.prepare hworkload).destroyAll _).dropAll _
  | noTimer hpairs hengines hworkload htimer =>
    have hmade := (h.openPairs hpairs).createFleet (h.booked.isHeld_openPairs hpairs) hengines
    exact (((hmade.prepare hworkload).arm htimer).destroyAll _).dropAll _
  | ready hpairs hengines hworkload htimer =>
    have hmade := (h.openPairs hpairs).createFleet (h.booked.isHeld_openPairs hpairs) hengines
    exact (hmade.prepare hworkload).arm htimer

end Reached

theorem Booked.begin {result : Except BenchError Underway} (hb : b.Booked base)
    (h : m.backend.begin p b = .ok (result, b')) : Reached base b b' :=
  ((Reached.refl hb).same (SameBooks.record b _)).begun (Backend.begin_cases h)

end Bench

end ReadinessBench

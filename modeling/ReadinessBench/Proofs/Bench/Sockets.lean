import ReadinessBench.Proofs.Bench.Shares
import ReadinessBench.Proofs.Echo.Basic

/-!
# What the calls leave of the sockets

Pairs are added at the end of the sockets, and dropping one closes its queues. To create an engine
touches the sockets at one step of its setup only: that of a threads engine makes the reads on the
pairs that it is to serve wait. Nothing lets them go again, and to destroy an engine touches no
socket at all.
-/

namespace ReadinessBench

theorem SocketPair.setBlocking_setBlocking (p : SocketPair) :
    p.setBlocking.setBlocking = p.setBlocking :=
  rfl

theorem SocketPair.blocking_send {p q : SocketPair} {data : Bytes} (h : p.send data = .ok q) :
    q.blocking = p.blocking := by
  unfold send at h
  cases hwrite : p.requests.write data with
  | ok requests =>
    rw [hwrite] at h
    cases h
    rfl
  | error f =>
    rw [hwrite] at h
    cases h

theorem SocketPair.blocking_reply {p q : SocketPair} {data : Bytes} {n : Nat}
    (h : p.reply data = .ok (n, q)) : q.blocking = p.blocking := by
  rcases p.reply_cases data with ⟨⟨f, hfailed⟩, -⟩ | hreply
  · rw [hfailed] at h
    cases h
  · rw [hreply] at h
    cases h
    rfl

/-- Whether a read at the engines' end of a pair waits for data. -/
def blockingAt (sockets : Array SocketPair) (pair : Nat) : Bool :=
  (sockets[pair]?.map SocketPair.blocking).getD false

/-- The request is for a threads engine, and not for an exclusive one, which is refused. -/
def EngineRequest.blocksReads (r : EngineRequest) : Bool :=
  r.mechanism = .threads && !r.exclusive

namespace Bench

variable {b b' : Bench} {pair i : Nat}

/-! ## Engines -/

-- a pair that is listed twice is made to wait twice, which is the same
theorem getElem?_blockAll (b : Bench) (watched : List Watched) (i : Nat) :
    (watched.foldl (fun b w => b.updatePair w.pair .setBlocking) b).sockets[i]? =
      if i ∈ watched.map Watched.pair then b.sockets[i]?.map SocketPair.setBlocking
      else b.sockets[i]? := by
  induction watched generalizing b with
  | nil => simp
  | cons w rest ih =>
    rw [List.foldl_cons, ih, updatePair, Array.getElem?_modify]
    by_cases hw : w.pair = i
    · simp [hw, Function.comp_def, SocketPair.setBlocking_setBlocking]
    · simp [hw, Ne.symm hw]

theorem sockets_allocate (b : Bench) (size : Nat) : (b.allocate size).2.sockets = b.sockets := by
  unfold allocate
  split <;> rfl

theorem sockets_allocateEach (b : Bench) (size n : Nat) :
    (b.allocateEach size n).2.sockets = b.sockets := by
  induction n generalizing b with
  | zero => rfl
  | succ n ih =>
    have hfirst := b.sockets_allocate size
    rw [allocateEach]
    split
    · rename_i heq
      rw [heq] at hfirst
      rw [ih, hfirst]
    · exact hfirst

theorem sockets_granted (context : String) (asked : Option Failure × Bench) :
    (EngineRequest.granted context asked).2.sockets = asked.2.sockets := by
  obtain ⟨refused, next⟩ := asked
  cases refused <;> rfl

theorem sockets_openOne {n : Nat} (h : b.openOne = .ok (n, b')) : b'.sockets = b.sockets := by
  unfold openOne at h
  cases hopen : b.table.openOne with
  | error f =>
    rw [hopen] at h
    cases h
  | ok r =>
    rw [hopen] at h
    cases h
    rfl

/-- Every step but one leaves the sockets alone. -/
theorem sockets_perform (r : EngineRequest) (opened : List Nat) {step : SetupStep}
    (hstep : step ≠ .blockReads) : (r.perform opened b step).2.sockets = b.sockets := by
  cases step with
  | checkExclusive =>
    rw [EngineRequest.perform]
    split <;> rfl
  | blockReads => exact absurd rfl hstep
  | checkSelectable => rfl
  | buffer =>
    rw [EngineRequest.perform, sockets_granted, sockets_allocate]
  | workers =>
    have hasked := sockets_granted Buffer.context (b.allocateEach r.messageSize r.watched.length)
    rw [sockets_allocateEach] at hasked
    rw [EngineRequest.perform]
    split <;> rename_i heq <;> rw [heq] at hasked <;> exact hasked
  | slots =>
    rw [EngineRequest.perform, sockets_granted, sockets_allocate]
  | descriptor context =>
    rw [EngineRequest.perform]
    split
    · rename_i hopen
      exact sockets_openOne hopen
    · rfl
  | register context =>
    rw [EngineRequest.perform]
    split <;> rfl
  | checkLastSelectable => rfl

theorem sockets_performAll (r : EngineRequest) (opened : List Nat) {steps : List SetupStep}
    (hsteps : .blockReads ∉ steps) : (r.performAll opened b steps).2.sockets = b.sockets := by
  induction steps generalizing opened b with
  | nil => rfl
  | cons step rest ih =>
    rw [List.mem_cons, not_or] at hsteps
    have hfirst := sockets_perform (b := b) r opened (Ne.symm hsteps.1)
    rw [EngineRequest.performAll]
    split <;> rename_i heq <;> rw [heq] at hfirst
    · rw [ih _ hsteps.2, hfirst]
    · exact hfirst

/-- The setup of a threads engine makes reads wait if it passes its first check, and then at once:
whatever fails afterwards comes too late. -/
theorem getElem?_performAll_setup (r : EngineRequest) (i : Nat) :
    (r.performAll [] b r.mechanism.setup).2.sockets[i]? =
      if r.blocksReads = true ∧ i ∈ r.watched.map Watched.pair then
        b.sockets[i]?.map SocketPair.setBlocking
      else b.sockets[i]? := by
  by_cases hthreads : r.mechanism = .threads
  · have hsetup : r.mechanism.setup = [.checkExclusive, .blockReads, .workers] := by
      rw [hthreads]
      rfl
    rw [hsetup, EngineRequest.performAll]
    -- nothing but the first check comes before the step
    cases hexclusive : r.exclusive with
    | true =>
      have hrefused : r.perform [] b .checkExclusive =
          (.error (.unsupportedExclusive r.mechanism.name), b) := by
        rw [EngineRequest.perform, hexclusive, hthreads]
        rfl
      rw [hrefused, EngineRequest.blocksReads, hexclusive, Bool.not_true, Bool.and_false]
      rfl
    | false =>
      have hpassed : r.perform [] b .checkExclusive = (.ok [], b) := by
        rw [EngineRequest.perform, hexclusive]
        rfl
      have hworkers : SetupStep.blockReads ∉ [SetupStep.workers] := by decide
      rw [hpassed]
      show (r.performAll _ (r.watched.foldl _ b) [.workers]).2.sockets[i]? = _
      rw [sockets_performAll r _ hworkers, getElem?_blockAll, EngineRequest.blocksReads, hthreads,
        hexclusive]
      simp
  · have hnot : r.blocksReads = false := by simp [EngineRequest.blocksReads, hthreads]
    have hsetup : SetupStep.blockReads ∉ r.mechanism.setup := by
      revert hthreads
      cases r.mechanism <;> decide
    rw [sockets_performAll r [] hsetup, hnot]
    simp

/-- To create an engine, with whatever success, changes no more than whether reads wait. -/
theorem getElem?_createEngine (b : Bench) (r : EngineRequest) (i : Nat) :
    (b.createEngine r).2.sockets[i]? =
      if r.blocksReads = true ∧ i ∈ r.watched.map Watched.pair then
        b.sockets[i]?.map SocketPair.setBlocking
      else b.sockets[i]? := by
  rw [← getElem?_performAll_setup]
  unfold createEngine
  split <;> rename_i heq <;> rw [heq]
  simp only [shareWatched_eq]
  rfl

theorem sockets_destroyEngine (b : Bench) (id : Nat) :
    (b.destroyEngine id).sockets = b.sockets := by
  unfold destroyEngine
  split
  · rfl
  · rename_i w _
    exact foldl_keeps Bench.sockets (fun b x => (SharesOnly.unshare b x.pair).sockets) _ w.watched

/-! ## Pairs -/

theorem sockets_dropPair (b : Bench) (pair : Nat) :
    (b.dropPair pair).sockets = b.sockets ∨
      (b.dropPair pair).sockets = b.sockets.modify pair (·.shutdown .generator .both) := by
  unfold dropPair
  split
  · exact Or.inl rfl
  · dsimp only
    split
    · exact Or.inr (SharesOnly.unshare _ pair).sockets
    · exact Or.inl rfl

theorem getElem?_send_of_ne {data : Bytes} (h : i ≠ pair) :
    (b.send pair data).2.sockets[i]? = b.sockets[i]? := by
  unfold send
  split
  · rfl
  · split
    · exact Array.getElem?_setIfInBounds_ne (Ne.symm h)
    · rfl

theorem getElem?_dropPair_of_ne (h : i ≠ pair) :
    (b.dropPair pair).sockets[i]? = b.sockets[i]? := by
  rcases b.sockets_dropPair pair with hsame | hclosed
  · rw [hsame]
  · rw [hclosed, Array.getElem?_modify, if_neg (Ne.symm h)]

theorem getElem?_dropAll {pairs : List Nat} (hpairs : i ∉ pairs) :
    (pairs.foldl dropPair b).sockets[i]? = b.sockets[i]? := by
  induction pairs generalizing b with
  | nil => rfl
  | cons pair rest ih =>
    rw [List.mem_cons, not_or] at hpairs
    rw [List.foldl_cons, ih hpairs.2, getElem?_dropPair_of_ne hpairs.1]

/-- Pairs are added behind those that are there, and only they are dropped again. -/
theorem getElem?_openMore {made : List Nat} {n : Nat} (hi : i < b.sockets.size) (hmade : i ∉ made) :
    (openMore made n b).2.sockets[i]? = b.sockets[i]? := by
  induction n generalizing made b with
  | zero => rfl
  | succ n ih =>
    rw [openMore]
    split
    -- the new pair is put behind all others, to which it is added if it must be dropped again
    · rename_i engine generator table hopen
      have hpush : (b.addPair engine generator table).sockets[i]? = b.sockets[i]? := by
        rw [addPair, Array.getElem?_push, if_neg (Nat.ne_of_lt hi)]
      rw [ih, hpush]
      · rw [addPair, Array.size_push]
        exact Nat.lt_succ_of_lt hi
      · rw [List.mem_cons, not_or]
        exact ⟨Nat.ne_of_lt hi, hmade⟩
    · exact getElem?_dropAll hmade

end Bench

/-! ## Echo steps -/

/-- Between these two there has been an echo step on some pair, or none. -/
inductive Echoed (sockets : Array SocketPair) : Array SocketPair → Prop where
  | none : Echoed sockets sockets
  | some {pair : Nat} {p : SocketPair} (n : Nat) (hp : sockets[pair]? = some p) :
    Echoed sockets (sockets.setIfInBounds pair (p.afterEcho n))

theorem Duty.echoed_echo (d : Duty) (pair : Nat) : Echoed d.sockets (d.echo pair).sockets := by
  unfold Duty.echo
  split
  · exact .none
  · rename_i p hp
    dsimp only
    rw [(p.echo_eq d.buffer).2.2]
    exact .some d.buffer.size hp

theorem Bench.echoed_echo (b : Bench) (pair : Nat) (buffer : Buffer) :
    Echoed b.sockets (b.echo pair buffer).2.2.sockets := by
  unfold Bench.echo
  split
  · exact .none
  · rename_i p hp
    dsimp only
    rw [(p.echo_eq buffer).2.2]
    exact .some buffer.size hp

/-! ## Whose reads wait -/

section Blocking

variable {sockets : Array SocketPair} {b : Bench} {pair : Nat} {p q : SocketPair}

theorem blockingAt_set (hp : sockets[pair]? = some p) (hq : q.blocking = p.blocking) :
    blockingAt (sockets.setIfInBounds pair q) = blockingAt sockets := by
  funext i
  have hlt : pair < sockets.size := (Array.getElem?_eq_some_iff.mp hp).1
  rw [blockingAt, blockingAt, Array.getElem?_setIfInBounds, if_pos hlt]
  by_cases hi : pair = i
  · rw [if_pos hi, ← hi, hp, Option.map_some, Option.map_some, hq]
  · rw [if_neg hi]

theorem blockingAt_modify {f : SocketPair → SocketPair} (hf : ∀ p, (f p).blocking = p.blocking) :
    blockingAt (sockets.modify pair f) = blockingAt sockets := by
  funext i
  rw [blockingAt, blockingAt, Array.getElem?_modify]
  split
  · rw [Option.map_map]
    congr 2
    funext p
    exact hf p
  · rfl

theorem Echoed.blockingAt_eq {sockets' : Array SocketPair} (h : Echoed sockets sockets') :
    blockingAt sockets' = blockingAt sockets := by
  cases h with
  | none => rfl
  | some n hp => exact blockingAt_set hp rfl

/-- A new pair does not make its readers wait. -/
theorem blockingAt_push : blockingAt (sockets.push .fresh) = blockingAt sockets := by
  funext i
  rw [blockingAt, blockingAt, Array.getElem?_push]
  split
  · rename_i hi
    rw [hi, Array.getElem?_eq_none (Nat.le_refl _)]
    rfl
  · rfl

namespace Bench

theorem blockingAt_send (b : Bench) (pair : Nat) (data : Bytes) :
    blockingAt (b.send pair data).2.sockets = blockingAt b.sockets := by
  unfold send
  split
  · rfl
  · rename_i p hp
    split
    · rename_i q hsend
      exact blockingAt_set hp (SocketPair.blocking_send hsend)
    · rfl

theorem blockingAt_receive (b : Bench) (pair n : Nat) :
    blockingAt (b.receive pair n).2.sockets = blockingAt b.sockets := by
  unfold receive
  split
  · rfl
  · rename_i p hp
    exact blockingAt_set hp rfl

theorem blockingAt_reply (b : Bench) (pair : Nat) (data : Bytes) :
    blockingAt (b.reply pair data).2.sockets = blockingAt b.sockets := by
  unfold reply
  split
  · rfl
  · rename_i p hp
    split
    · rename_i n q hreply
      exact blockingAt_set hp (SocketPair.blocking_reply hreply)
    · rfl

theorem blockingAt_accept (b : Bench) (pair n : Nat) :
    blockingAt (b.accept pair n).2.sockets = blockingAt b.sockets := by
  unfold accept
  split
  · rfl
  · rename_i p hp
    exact blockingAt_set hp rfl

theorem blockingAt_dropPair (b : Bench) (pair : Nat) :
    blockingAt (b.dropPair pair).sockets = blockingAt b.sockets := by
  rcases b.sockets_dropPair pair with hsame | hclosed
  · rw [hsame]
  · rw [hclosed]
    exact blockingAt_modify fun _ => rfl

theorem blockingAt_openMore (b : Bench) (made : List Nat) (n : Nat) :
    blockingAt (openMore made n b).2.sockets = blockingAt b.sockets := by
  induction n generalizing made b with
  | zero => rfl
  | succ n ih =>
    rw [openMore]
    split
    · rw [ih]
      exact blockingAt_push
    · exact foldl_keeps (blockingAt ·.sockets) blockingAt_dropPair b made

theorem blockingAt_createEngine {b : Bench} {r : EngineRequest} {i : Nat}
    (h : blockingAt (b.createEngine r).2.sockets i = true) :
    blockingAt b.sockets i = true ∨ r.blocksReads = true ∧ i ∈ r.watched.map Watched.pair := by
  rw [blockingAt, getElem?_createEngine] at h
  split at h
  · rename_i hblocks
    exact Or.inr hblocks
  · exact Or.inl h

end Bench

end Blocking

end ReadinessBench

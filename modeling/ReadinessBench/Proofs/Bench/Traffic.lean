import ReadinessBench.Proofs.Bench.Books
import ReadinessBench.Proofs.Watch.Work
import ReadinessBench.Workload.Traffic

/-!
# Traffic is not in the books

Whatever is written, read, echoed or shut down, no descriptor is opened or closed by it, and the
same engines go on watching the same pairs.
-/

namespace ReadinessBench

theorem Watcher.SameSeat.tenant_eq {w w' : Watcher} (h : SameSeat w w') (id : Nat) :
    w'.tenant id = w.tenant id := by
  rw [tenant, tenant, h.mechanism, h.watched, h.owned]

namespace Bench

namespace SameBooks

theorem setPair (b : Bench) (pair : Nat) (p : SocketPair) :
    SameBooks b { b with sockets := b.sockets.setIfInBounds pair p } :=
  setSockets b Array.size_setIfInBounds

theorem cancel (b : Bench) : SameBooks b b.cancel := ⟨rfl, rfl, rfl, rfl, rfl⟩

theorem send (b : Bench) (pair : Nat) (data : Bytes) : SameBooks b (b.send pair data).2 := by
  unfold Bench.send
  split
  · exact refl b
  · split
    · exact setPair b pair _
    · exact refl b

theorem reply (b : Bench) (pair : Nat) (data : Bytes) : SameBooks b (b.reply pair data).2 := by
  unfold Bench.reply
  split
  · exact refl b
  · split
    · exact setPair b pair _
    · exact refl b

theorem receive (b : Bench) (pair n : Nat) : SameBooks b (b.receive pair n).2 := by
  unfold Bench.receive
  split
  · exact refl b
  · exact setPair b pair _

theorem accept (b : Bench) (pair n : Nat) : SameBooks b (b.accept pair n).2 := by
  unfold Bench.accept
  split
  · exact refl b
  · exact setPair b pair _

theorem echo (b : Bench) (pair : Nat) (buffer : Buffer) :
    SameBooks b (b.echo pair buffer).2.2 := by
  unfold Bench.echo
  split
  · exact refl b
  · exact setPair b pair _

private theorem settle_go (ws done : List (Nat × Watcher)) (sockets : Array SocketPair) :
    let settled := ws.foldl
      (fun (done, sockets) (id, w) =>
        let (w, sockets) := w.settle sockets
        ((id, w) :: done, sockets))
      (done, sockets)
    (settled.1.reverse.map fun (id, w) => w.tenant id) =
        ((done.reverse ++ ws).map fun (id, w) => w.tenant id) ∧
      settled.2.size = sockets.size := by
  induction ws generalizing done sockets with
  | nil => exact ⟨by rw [List.append_nil]; rfl, rfl⟩
  | cons x rest ih =>
    obtain ⟨id, w⟩ := x
    obtain ⟨hseat, hsize⟩ := w.work_same sockets (w.duty sockets).backlog
    obtain ⟨htenants, hrest⟩ := ih ((id, (w.settle sockets).1) :: done) (w.settle sockets).2
    have hhead : (w.settle sockets).1.tenant id = w.tenant id := hseat.tenant_eq id
    refine ⟨htenants.trans ?_, hrest.trans hsize⟩
    simp only [List.reverse_cons, List.append_assoc, List.singleton_append, List.map_append,
      List.map_cons, hhead]

theorem settle (b : Bench) : SameBooks b b.settle := by
  obtain ⟨htenants, hsize⟩ := settle_go b.watchers [] b.sockets
  exact ⟨rfl, hsize, rfl, htenants, rfl⟩

end SameBooks

/-! ## The workload -/

/-- Each call that the workload makes, and each of its surroundings' answers to it, keeps `R`. -/
structure KeptByCalls (R : Bench → Bench → Prop) : Prop where
  refl : ∀ b, R b b
  trans : ∀ {b c d}, R b c → R c d → R b d
  send : ∀ b pair data, R b (b.send pair data).2
  receive : ∀ b pair n, R b (b.receive pair n).2
  settle : ∀ b, R b b.settle
  cancel : ∀ b, R b b.cancel
  faulted : ∀ b e, R b (b.record (.workloadFaulted e))
  finished : ∀ b n, R b (b.record (.workloadFinished n))

namespace KeptByCalls

variable {R : Bench → Bench → Prop} (h : KeptByCalls R)
include h

theorem alarm (t : Traffic) : R t.bench t.alarm.bench := by
  unfold Traffic.alarm
  dsimp only
  split
  · exact h.cancel t.bench
  · exact h.refl t.bench

theorem advance (t : Traffic) : R t.bench t.advance.bench := by
  unfold Traffic.advance
  cases t.workload.stage with
  | sending =>
    exact h.trans (h.send t.bench t.target t.workload.message.contents) (h.settle _)
  | receiving =>
    have hreceive := h.receive t.bench t.target t.workload.message.size
    dsimp only
    split
    · exact h.alarm t
    · rename_i heq
      rw [heq] at hreceive
      exact hreceive
  | drawing =>
    -- what is drawn is of no account, and to evaluate it would take long
    generalize t.draw.below t.workload.pairs = drawn
    cases drawn
    exact h.refl t.bench
  | _ => exact h.refl t.bench

theorem proceed (t : Traffic) (n : Nat) : R t.bench (t.proceed n).bench := by
  induction n generalizing t with
  | zero => exact h.refl t.bench
  | succ n ih =>
    rw [Traffic.proceed]
    split
    · exact h.refl t.bench
    · have htwo (t : Traffic) : R t.bench t.advance.advance.bench :=
        h.trans (h.advance t) (h.advance _)
      have htrip : R t.bench t.roundTrip.bench :=
        h.trans (h.trans (htwo t) (htwo _)) (htwo _)
      exact h.trans htrip (ih t.roundTrip)

theorem expire (t : Traffic) : R t.bench t.expire.bench := by
  unfold Traffic.expire
  split
  · exact h.refl t.bench
  · exact h.trans (h.alarm t) (h.advance t.alarm)

theorem report (t : Traffic) : R t.bench t.report := by
  unfold Traffic.report
  split
  · exact h.trans (h.faulted _ _) (h.finished _ _)
  · exact h.finished _ _

theorem drive (b : Bench) (w : Workload) (pairs : List Nat) (draw : Draw) (roundTrips : Nat) :
    R b (b.drive w pairs draw roundTrips).2 := by
  let t : Traffic := { workload := w, draw, pairs, bench := b }
  exact h.trans (h.trans (h.proceed t roundTrips) (h.expire _)) (h.report _)

end KeptByCalls

theorem SameBooks.keptByCalls : KeptByCalls SameBooks :=
  ⟨refl, trans, send, receive, settle, cancel, fun b _ => record b _, fun b _ => record b _⟩

end Bench

end ReadinessBench

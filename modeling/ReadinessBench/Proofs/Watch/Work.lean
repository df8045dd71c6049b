import Mathlib.Logic.Relation
import ReadinessBench.Watch.Watcher

/-!
# The work of a watcher

Whatever a worker is told, in a wake-up it does nothing but echo on watched pairs and acknowledge
the stop request. So nothing else can change while engines work: not the pairs they watch, not the
descriptors they own, not how many pairs there are.
-/

namespace ReadinessBench

namespace Duty

/-- One thing that a worker does. -/
inductive Act : Duty → Duty → Prop where
  | echo {d : Duty} {w : Watched} (hw : w ∈ d.watched) : Act d (d.echo w.pair)
  | acknowledge {d : Duty} : Act d d.acknowledge.2

/-- What a worker does, one thing after the other. -/
abbrev Work : Duty → Duty → Prop := Relation.ReflTransGen Act

theorem watched_echo (d : Duty) (pair : Nat) : (d.echo pair).watched = d.watched := by
  unfold echo
  split <;> rfl

theorem stop_echo (d : Duty) (pair : Nat) : (d.echo pair).stop = d.stop := by
  unfold echo
  split <;> rfl

theorem acknowledge_cases (d : Duty) :
    (d.stop.isReadable = true ∧ d.acknowledge = (true, { d with stop := ⟨0⟩ })) ∨
      (d.stop.isReadable = false ∧ d.acknowledge = (false, d)) := by
  by_cases hraised : 0 < d.stop.count
  · refine Or.inl ⟨decide_eq_true hraised, ?_⟩
    simp only [acknowledge, StopCounter.acknowledge, if_pos hraised]
  · refine Or.inr ⟨decide_eq_false hraised, ?_⟩
    simp only [acknowledge, StopCounter.acknowledge, if_neg hraised]

/-- A stop request has been taken from the counter between these two. -/
def stopTaken (before after : Duty) : Bool := before.stop.isReadable && !after.stop.isReadable

theorem stopTaken_of_stop_eq {before after : Duty} (h : after.stop = before.stop) :
    before.stopTaken after = false := by
  rw [stopTaken, h, Bool.and_not_self]

theorem stopTaken_acknowledge {d : Duty} (h : d.stop.isReadable = true) :
    d.stopTaken d.acknowledge.2 = true := by
  rcases d.acknowledge_cases with ⟨-, hack⟩ | ⟨hnot, -⟩
  · rw [stopTaken, h, hack]
    rfl
  · rw [h] at hnot
    exact Bool.noConfusion hnot

theorem size_echo (d : Duty) (pair : Nat) : (d.echo pair).sockets.size = d.sockets.size := by
  unfold echo
  split
  · rfl
  · exact Array.size_setIfInBounds

namespace Work

variable {d d' : Duty}

theorem watched_eq (h : Work d d') : d'.watched = d.watched := by
  induction h with
  | refl => rfl
  | tail _ hact ih =>
    cases hact with
    | echo => rw [watched_echo, ih]
    | acknowledge => exact ih

theorem size_eq (h : Work d d') : d'.sockets.size = d.sockets.size := by
  induction h with
  | refl => rfl
  | tail _ hact ih =>
    cases hact with
    | echo => rw [size_echo, ih]
    | acknowledge => exact ih

theorem echo {w : Watched} (hw : w ∈ d.watched) : Work d (d.echo w.pair) :=
  Relation.ReflTransGen.single (Act.echo hw)

theorem acknowledge : Work d d.acknowledge.2 := Relation.ReflTransGen.single Act.acknowledge

/-- A loop in which every turn is work is work. -/
theorem foldl {α : Type} {f : Duty → α → Duty} {xs : List α}
    (hf : ∀ e, e.watched = d.watched → ∀ x ∈ xs, Work e (f e x)) : Work d (xs.foldl f d) := by
  induction xs generalizing d with
  | nil => exact Relation.ReflTransGen.refl
  | cons x rest ih =>
    have hfirst := hf d rfl x List.mem_cons_self
    -- the turns that follow work on the same watched pairs
    refine hfirst.trans (ih fun e he y hy => ?_)
    exact hf e (he.trans hfirst.watched_eq) y (List.mem_cons_of_mem x hy)

/-- The stop request is looked after first; a worker that goes on does its work then. -/
theorem afterStop (readable : Bool) {f : Duty → Duty}
    (hf : ∀ e, e.watched = d.watched → Work e (f e)) :
    let looked := if readable then d.acknowledge else (false, d)
    Work d (if looked.1 then (Verdict.exit, looked.2) else (.goOn, f looked.2)).2 := by
  intro looked
  have hlooked : Work d looked.2 := by
    cases readable with
    | false => exact Relation.ReflTransGen.refl
    | true => exact acknowledge
  cases looked.1 with
  | true => exact hlooked
  | false => exact hlooked.trans (hf _ hlooked.watched_eq)

end Work

end Duty

open Duty

/-! ## Wake-ups -/

theorem PollLoop.wake_work (stop : PollSlot) (slots : List PollSlot) (d : Duty) :
    Work d (PollLoop.wake stop slots d).2 := by
  refine Work.afterStop stop.isReadable (f := fun e => (slots.zip e.watched).foldl
    (fun d x => if x.1.isReadable then d.echo x.2.pair else d) e) ?_
  intro e _
  apply Work.foldl
  intro e' he' x hx
  split
  · exact Work.echo (by rw [he']; exact (List.of_mem_zip hx).2)
  · exact Relation.ReflTransGen.refl

theorem SelectLoop.wake_work (readable : DescriptorSet) (stopNumber : Nat) (d : Duty) :
    Work d (SelectLoop.wake readable stopNumber d).2 := by
  refine Work.afterStop (readable.contains stopNumber) (f := fun e => e.watched.foldl
    (fun d w => if readable.contains w.number then d.echo w.pair else d) e) ?_
  intro e _
  apply Work.foldl
  intro e' he' w hw
  split
  · exact Work.echo (by rw [he']; exact hw)
  · exact Relation.ReflTransGen.refl

theorem EpollLoop.wake_work (tokens : List UInt64) (d : Duty) :
    Work d (EpollLoop.wake tokens d).2 := by
  induction tokens generalizing d with
  | nil => exact Relation.ReflTransGen.refl
  | cons token rest ih =>
    rw [EpollLoop.wake]
    split
    · split
      · rename_i e hack
        have hwork : Work d d.acknowledge.2 := Work.acknowledge
        rw [hack] at hwork
        exact hwork
      · rename_i e hack
        have hwork : Work d d.acknowledge.2 := Work.acknowledge
        rw [hack] at hwork
        exact hwork.trans (ih e)
    · split
      · rename_i w hw
        exact (Work.echo (List.mem_of_getElem? hw)).trans (ih _)
      · exact ih d

theorem ThreadGroup.serve_work (w : Watched) (flags : List Bool) (d : Duty) (hw : w ∈ d.watched) :
    Work d (ThreadGroup.serve w.pair flags d) := by
  induction flags generalizing d with
  | nil => exact Relation.ReflTransGen.refl
  | cons stopped rest ih =>
    rw [ThreadGroup.serve]
    split
    · exact Relation.ReflTransGen.refl
    · exact (Work.echo hw).trans (ih _ (by rw [watched_echo]; exact hw))

namespace RingWorker

theorem handle_work (w : RingWorker) (token : UInt64) : Work w.duty (w.handle token).2.duty := by
  unfold handle
  split
  · split
    · rename_i e hack
      have hwork : Work w.duty w.duty.acknowledge.2 := Work.acknowledge
      rw [hack] at hwork
      exact hwork
    · rename_i e hack
      have hwork : Work w.duty w.duty.acknowledge.2 := Work.acknowledge
      rw [hack] at hwork
      exact hwork
  · split
    · rename_i x hx
      exact Work.echo (List.mem_of_getElem? hx)
    · exact Relation.ReflTransGen.refl

theorem duty_rearm (w : RingWorker) (request : PollRequest) (h : Handover) :
    (w.rearm request h).2.duty = w.duty := by
  unfold rearm
  split <;> rfl

theorem settle_work (w : RingWorker) (token : UInt64) (number : Nat) (h : Handover)
    (o : Except Failure Unit) : Work w.duty (w.settle token number h o).2.2.duty := by
  cases o with
  | ok =>
    have hwork := w.handle_work token
    rw [settle]
    split
    · rename_i w' hhandle
      rw [hhandle] at hwork
      show Work w.duty (w'.rearm _ h).2.duty
      rw [duty_rearm]
      exact hwork
    · rename_i hhandle
      rw [hhandle] at hwork
      exact hwork
  | error f =>
    rw [settle]
    split
    · show Work w.duty (w.rearm _ h).2.duty
      rw [duty_rearm]
    · exact Relation.ReflTransGen.refl

theorem complete_work (w : RingWorker) (token : UInt64) (result : Int32) (h : Handover) :
    Work w.duty (w.complete token result h).2.2.duty := by
  unfold complete
  split
  · exact Relation.ReflTransGen.refl
  · split
    · exact w.settle_work _ _ h _
    · exact Relation.ReflTransGen.refl

theorem wake_work (w : RingWorker) (h : Handover) (answers : List (UInt64 × Int32)) :
    Work w.duty (w.wake h answers).2.2.duty := by
  induction answers generalizing w with
  | nil => exact Relation.ReflTransGen.refl
  | cons answer rest ih =>
    obtain ⟨token, result⟩ := answer
    have hwork := w.complete_work token result h
    rw [wake]
    split
    · rename_i events w' hcomplete
      rw [hcomplete] at hwork
      exact hwork.trans (ih w')
    · exact hwork

end RingWorker

namespace Watcher

/-- What stays as it is while an engine works. -/
structure SameSeat (w w' : Watcher) : Prop where
  mechanism : w'.mechanism = w.mechanism
  watched : w'.watched = w.watched
  owned : w'.owned = w.owned

/-- A wake-up of an engine is work on its duty. -/
theorem wake_work (w : Watcher) (sockets : Array SocketPair) :
    SameSeat w (w.wake sockets).1 ∧
      ∃ d, Work (w.duty sockets) d ∧ (w.wake sockets).1.buffer = d.buffer ∧
        (w.wake sockets).2 = d.sockets := by
  unfold wake
  split
  · exact ⟨⟨rfl, rfl, rfl⟩, _, PollLoop.wake_work _ _ _, rfl, rfl⟩
  · exact ⟨⟨rfl, rfl, rfl⟩, _, SelectLoop.wake_work _ _ _, rfl, rfl⟩
  · exact ⟨⟨rfl, rfl, rfl⟩, _, EpollLoop.wake_work _ _, rfl, rfl⟩
  · exact ⟨⟨rfl, rfl, rfl⟩, _, RingWorker.wake_work ⟨_, w.stopNumber, w.duty sockets⟩ _ _, rfl,
      rfl⟩
  · refine ⟨⟨rfl, rfl, rfl⟩, _, ?_, rfl, rfl⟩
    apply Work.foldl
    intro e he x hx
    exact ThreadGroup.serve_work x [false] e (by rw [he]; exact hx)

theorem work_same (w : Watcher) (sockets : Array SocketPair) (n : Nat) :
    SameSeat w (w.work sockets n).1 ∧ (w.work sockets n).2.size = sockets.size := by
  induction n generalizing w sockets with
  | zero => exact ⟨⟨rfl, rfl, rfl⟩, rfl⟩
  | succ n ih =>
    rw [work]
    split
    · exact ⟨⟨rfl, rfl, rfl⟩, rfl⟩
    · obtain ⟨hseat, d, hwork, -, hsockets⟩ := w.wake_work sockets
      -- each wake-up begins with the sockets that the last one has left
      obtain ⟨hrest, hsize⟩ := ih (w.wake sockets).1 (w.wake sockets).2
      refine ⟨⟨hrest.mechanism.trans hseat.mechanism, hrest.watched.trans hseat.watched,
        hrest.owned.trans hseat.owned⟩, ?_⟩
      have hwoken : (w.wake sockets).2.size = sockets.size := by
        rw [hsockets]
        exact hwork.size_eq
      exact hsize.trans hwoken

end Watcher

end ReadinessBench

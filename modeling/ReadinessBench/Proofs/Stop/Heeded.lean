import ReadinessBench.Proofs.Ring.OneShot
import ReadinessBench.Proofs.Stop.Counter
import ReadinessBench.Proofs.Stop.Leaving

/-!
# A stop request is never lost

Only the owner adds to a worker's stop counter, and only a successful acknowledgement takes from it.
So from the owner's request on the counter stays readable until the worker has heard of it, and as a
ring always has a request for it, no wait can pass it over. Main statement: `heeded_run`.
-/

namespace ReadinessBench

open Body

/-! ## The request for the stop counter -/

namespace RingRun

open RingWorker

variable {s : RingRun} {token : UInt64} {result : Int32} {rest : List (UInt64 × Int32)}

/-- The ring has a request for the stop counter, and every answer is one that a kernel gives. -/
structure Asked (s : RingRun) : Prop where
  oneShot : OneShot [stopToken] s
  truthful : ∀ x ∈ s.batch ++ s.completed, x.2 ≠ Int32.minValue
  failed : ∀ result, (stopToken, result) ∈ s.handled → FailsForGood result →
    s.ending ≠ .waiting

namespace Asked

theorem answer (hs : s.Asked) (token : UInt64) (hresult : result ≠ Int32.minValue) :
    (s.answer token result).Asked := by
  have hone := hs.oneShot.answer token result
  unfold RingRun.answer at hone ⊢
  split
  · rename_i hpending
    rw [if_pos hpending] at hone
    refine ⟨hone, ?_, hs.failed⟩
    intro x hx
    rw [← List.append_assoc, List.mem_append] at hx
    rcases hx with hx | hx
    · exact hs.truthful x hx
    · rw [List.mem_singleton.mp hx]
      exact hresult
  · exact hs

theorem submit (hs : s.Asked) (h : Handover) : (s.submit h).Asked := by
  have hone := hs.oneShot.submit h
  unfold RingRun.submit at hone ⊢
  split
  · rename_i hidle
    rw [if_pos hidle] at hone
    exact ⟨hone, hs.truthful, hs.failed⟩
  · exact hs

theorem fetch (hs : s.Asked) (failure : Option Failure) : (s.fetch failure).Asked := by
  have hone := hs.oneShot.fetch failure
  unfold RingRun.fetch at hone ⊢
  split
  · rename_i hidle
    rw [if_pos hidle] at hone
    split at hone
    · exact ⟨hone, hs.truthful, fun _ _ _ => ServiceEnd.noConfusion⟩
    · refine ⟨hone, ?_, hs.failed⟩
      intro x hx
      rw [List.append_nil] at hx
      exact hs.truthful x (List.mem_append_right _ hx)
  · exact hs

theorem withDuty (hs : s.Asked) {d : Duty} (hwatched : d.watched = s.worker.duty.watched) :
    (s.withDuty d).Asked :=
  ⟨hs.oneShot.withDuty hwatched, hs.truthful, hs.failed⟩

theorem ending_of_failed (h : Handover) (hnumber : s.worker.numberOf? stopToken ≠ none)
    (hfails : FailsForGood result) :
    (s.handle h stopToken result rest).ending ≠ .waiting := by
  show (s.worker.complete stopToken result h).1.ending ≠ .waiting
  have hcompletion := s.worker.complete_cases stopToken result h
  generalize s.worker.complete stopToken result h = outcome at hcompletion ⊢
  cases hcompletion with
  | passedOver hnone => exact absurd hnone hnumber
  | collapsed r => exact ServiceEnd.noConfusion
  | failed f =>
    rw [if_pos rfl]
    exact ServiceEnd.noConfusion
  | stopped => exact ServiceEnd.noConfusion
  | renewed number d hwork hstop hgood => exact absurd hfails hgood

theorem handle (hs : s.Asked) (h : Handover) (hwaiting : s.ending = .waiting)
    (hbatch : s.batch = (token, result) :: rest) : (s.handle h token result rest).Asked := by
  refine ⟨hs.oneShot.handle h hwaiting hbatch, ?_, ?_⟩
  · intro x hx
    refine hs.truthful x ?_
    rw [hbatch]
    exact List.mem_cons_of_mem _ hx
  · intro r hr hfails
    rcases List.mem_append.mp hr with hbefore | hnow
    · exact absurd hwaiting (hs.failed r hbefore hfails)
    · rw [List.mem_singleton, Prod.mk.injEq] at hnow
      obtain ⟨rfl, rfl⟩ := hnow
      exact ending_of_failed h (hs.oneShot.numbered stopToken List.mem_cons_self) hfails

theorem handleNext (hs : s.Asked) (h : Handover) : (s.handleNext h).Asked := by
  unfold RingRun.handleNext
  split
  · rename_i hwaiting hbatch
    exact hs.handle h hwaiting hbatch
  · exact hs

theorem follows_handleNext (hs : s.Asked) (h : Handover) :
    Follows (.ring s) (.ring (s.handleNext h)) := by
  unfold RingRun.handleNext
  split
  · rename_i token result rest hwaiting hbatch
    refine follows_handle h hwaiting (hs.truthful (token, result) ?_)
    rw [hbatch]
    exact List.mem_append_left _ List.mem_cons_self
  · exact .refl _

/-- A request that the kernel would answer at once, or has answered, keeps a wait from blocking. -/
theorem mayBlock_eq_false (hs : s.Asked) (hidle : s.idle = true)
    (hreadable : s.worker.duty.stop.isReadable = true) (harmed : stopToken ∉ s.unarmed) :
    (Body.ring s).mayBlock = false := by
  obtain ⟨hwaiting, hbatch⟩ := idle_iff.mp hidle
  have hasked : stopToken ∈ s.outstanding := by
    refine hs.oneShot.armed stopToken List.mem_cons_self hwaiting harmed ?_
    intro r hr hfails
    exact hs.failed r hr hfails hwaiting
  rw [outstanding, hbatch, List.nil_append, List.mem_append] at hasked
  show (s.completed.isEmpty && s.worker.ring.known.all (!s.isReady ·.token)) = false
  rcases hasked with hanswered | hknown
  -- it has been answered, and the wait only fetches the answer
  · obtain ⟨x, hx, -⟩ := List.mem_map.mp hanswered
    have hsome : s.completed.isEmpty = false :=
      List.isEmpty_eq_false_iff.mpr (List.ne_nil_of_mem hx)
    rw [hsome, Bool.false_and]
  -- it is queued or with the kernel, which answers it at once
  · obtain ⟨q, hq, htoken⟩ := List.mem_map.mp hknown
    have hready : s.isReady q.token = true := by
      rw [htoken]
      exact hreadable
    have hall : s.worker.ring.known.all (!s.isReady ·.token) = false := by
      rw [List.all_eq_false]
      exact ⟨q, hq, by rw [hready]; exact Bool.false_ne_true⟩
    rw [hall, Bool.and_false]

end Asked

end RingRun

/-! ## One move -/

namespace Body

variable {b b' : Body} {raised : Bool}

/-- The worker can be stopped: its counter is readable from the owner's request until it hears. -/
structure Watchful (raised : Bool) (b : Body) : Prop where
  own : b.duty.stop.isReadable = true ∨ b.heard = true → raised = true
  kept : raised = true → b.heard = false → b.ending = .waiting → b.duty.stop.isReadable = true
  left : b.ending ≠ .waiting → b.Left

theorem Watchful.follows (hb : b.Watchful raised) (h : Follows b b') : b'.Watchful raised := by
  refine ⟨?_, ?_, h.left hb.left⟩
  · rcases h.stop with ⟨hstop, hheard⟩ | ⟨hreadable, -⟩
    · rw [hstop, hheard]
      exact hb.own
    · exact fun _ => hb.own (Or.inl hreadable)
  · intro hraised hnot hending
    rcases h.stop with ⟨hstop, hheard⟩ | ⟨-, hheard⟩
    · rw [hstop]
      exact hb.kept hraised (hheard.symm.trans hnot) (h.waiting hending)
    · rw [hheard] at hnot
      exact Bool.noConfusion hnot

theorem Watchful.raise (hb : b.Watchful raised) :
    (b.withDuty { b.duty with stop := b.duty.stop.raise }).Watchful true := by
  cases b with
  | loop s =>
    refine ⟨fun _ => rfl, fun _ _ _ => s.duty.stop.isReadable_raise, fun hended => ?_⟩
    exact (hb.left hended).of_same rfl rfl rfl rfl rfl
  | ring s =>
    refine ⟨fun _ => rfl, fun _ _ _ => s.worker.duty.stop.isReadable_raise, fun hended => ?_⟩
    exact (hb.left hended).of_same rfl rfl rfl rfl rfl

def Asked : Body → Prop
  | .loop _ => True
  | .ring s => s.Asked

theorem Asked.withDuty (hb : b.Asked) {d : Duty} (hwatched : d.watched = b.duty.watched) :
    (b.withDuty d).Asked := by
  cases b with
  | loop s => trivial
  | ring s => exact RingRun.Asked.withDuty hb hwatched

theorem follows_withDuty {d : Duty} (hstop : d.stop = b.duty.stop) : Follows b (b.withDuty d) := by
  cases b with
  | loop s =>
    exact ⟨Or.inl ⟨hstop, rfl⟩, id, fun hleft hended => (hleft hended).of_same rfl rfl rfl rfl rfl⟩
  | ring s =>
    exact ⟨Or.inl ⟨hstop, rfl⟩, id, fun hleft hended => (hleft hended).of_same rfl rfl rfl rfl rfl⟩

theorem Asked.answer (hb : b.Asked) (token : UInt64) (result : Int32) :
    (b.answer token result).Asked ∧ Follows b (b.answer token result) := by
  cases b with
  | loop s => exact ⟨trivial, .refl _⟩
  | ring s =>
    unfold Body.answer
    by_cases hleast : result = Int32.minValue
    · simp only [if_pos hleast]
      exact ⟨hb, .refl _⟩
    · simp only [if_neg hleast]
      exact ⟨RingRun.Asked.answer hb token hleast, s.follows_answer token result⟩

theorem Asked.act (hb : b.Asked) (x : Turn) : (b.act x).Asked ∧ Follows b (b.act x) := by
  cases b with
  | loop s =>
    cases x with
    | wait result => exact ⟨trivial, s.follows_wait result⟩
    | work => exact ⟨trivial, s.follows_work⟩
    | submit | fetch | handle => exact ⟨trivial, .refl _⟩
  | ring s =>
    have hs : s.Asked := hb
    cases x with
    | submit h => exact ⟨hs.submit h, s.follows_submit h⟩
    | fetch failure => exact ⟨hs.fetch failure, s.follows_fetch failure⟩
    | handle h => exact ⟨hs.handleNext h, hs.follows_handleNext h⟩
    | wait | work => exact ⟨hb, .refl _⟩

/-- A worker that has not begun, with a stop counter that nobody has touched. With a ring it watches
fewer pairs than there are tokens. -/
inductive Fresh : Body → Prop where
  | loop (mechanism : Mechanism) (stopNumber : Nat) (d : Duty) (hstop : d.stop = {}) :
      Fresh (.loop { mechanism, stopNumber, duty := d })
  | ring (mask : UInt32) (w : RingWorker) (hstop : w.duty.stop = {})
      (hsize : w.duty.watched.length < UInt64.size)
      (hinstalled : Ring.Installed mask w.duty.watched w.stopNumber w.ring) :
      Fresh (.ring { worker := w })

theorem Fresh.watchful (h : b.Fresh) : b.Watchful false := by
  have hempty : ({} : StopCounter).isReadable = false := rfl
  cases h with
  | loop mechanism stopNumber d hstop =>
    refine ⟨?_, Bool.noConfusion, fun hended => absurd rfl hended⟩
    show d.stop.isReadable = true ∨ false = true → false = true
    rw [hstop, hempty, or_self]
    exact id
  | ring mask w hstop =>
    refine ⟨?_, Bool.noConfusion, fun hended => absurd rfl hended⟩
    show w.duty.stop.isReadable = true ∨ false = true → false = true
    rw [hstop, hempty, or_self]
    exact id

theorem Fresh.asked (h : b.Fresh) : b.Asked := by
  cases h with
  | loop => trivial
  | ring mask w hstop hsize hinstalled =>
    refine ⟨(RingRun.OneShot.start hsize hinstalled).mono ?_, ?_, ?_⟩
    · intro t ht
      rw [Ring.tokens_requests]
      exact List.mem_append_right _ ht
    · exact fun x hx => absurd hx List.not_mem_nil
    · exact fun result hresult => absurd hresult List.not_mem_nil

end Body

/-! ## What the waits look at -/

theorem LoopRun.IsFit.of_same {s s' : LoopRun} (h : s.IsFit)
    (hmechanism : s'.mechanism = s.mechanism) (hstop : s'.stopNumber = s.stopNumber)
    (hwatched : s'.duty.watched = s.duty.watched) : s'.IsFit := by
  refine ⟨hmechanism ▸ h.loops, ?_⟩
  rw [hmechanism, hstop, hwatched]
  exact h.below

namespace Body

variable {b : Body}

/-- With a ring there is no set to fit into. -/
def IsFit : Body → Prop
  | .loop s => s.IsFit
  | .ring _ => True

theorem IsFit.withDuty (h : b.IsFit) {d : Duty} (hwatched : d.watched = b.duty.watched) :
    (b.withDuty d).IsFit := by
  cases b with
  | loop s => exact LoopRun.IsFit.of_same h rfl rfl hwatched
  | ring s => trivial

theorem IsFit.act (h : b.IsFit) (x : Turn) : (b.act x).IsFit := by
  cases b with
  | ring s => cases x <;> trivial
  | loop s =>
    cases x with
    | submit | fetch | handle => exact h
    | wait result =>
      have hsame : (s.wait result).mechanism = s.mechanism ∧
          (s.wait result).stopNumber = s.stopNumber ∧ (s.wait result).duty = s.duty := by
        unfold LoopRun.wait
        split
        · split
          · exact ⟨rfl, rfl, rfl⟩
          · split <;> exact ⟨rfl, rfl, rfl⟩
        · exact ⟨rfl, rfl, rfl⟩
      exact LoopRun.IsFit.of_same h hsame.1 hsame.2.1 (congrArg Duty.watched hsame.2.2)
    | work =>
      show s.work.IsFit
      unfold LoopRun.work
      split
      · exact LoopRun.IsFit.of_same h rfl rfl (Duty.watched_perform _ _)
      · exact h

end Body

namespace Tenure

/-- Whatever the worker and its owner do, and whatever others do to the sockets, every wait looks at
the same descriptors. -/
theorem isFit_run {b : Body} (h : b.IsFit) (moves : List Move) :
    (run { body := b } moves).body.IsFit := by
  have hstep (t : Tenure) (x : Move) (ht : t.body.IsFit) : (t.step x).body.IsFit := by
    cases x with
    | ready => exact ht
    | start | join =>
      rw [step]
      split <;> exact ht
    | raise =>
      rw [step]
      split
      · exact ht.withDuty rfl
      · exact ht
    | turn x =>
      rw [step]
      split
      · exact ht.act x
      · exact ht
    | answer token result =>
      cases hbody : t.body with
      | loop s =>
        rw [hbody] at ht
        simp only [step, hbody, Body.answer]
        exact ht
      | ring s =>
        simp only [step, hbody, Body.answer]
        split <;> trivial
    | traffic sockets => exact ht.withDuty rfl
  unfold run
  induction moves using List.reverseRecOn with
  | nil => exact h
  | append_singleton moves x ih =>
    rw [List.foldl_append]
    exact hstep _ x ih

end Tenure

/-! ## The whole tenure -/

namespace Tenure

variable {t : Tenure}

structure Sound (t : Tenure) : Prop where
  watchful : t.body.Watchful t.owner.hasRaised
  asked : t.body.Asked

theorem Sound.step (ht : t.Sound) (x : Move) : (t.step x).Sound := by
  cases x with
  | ready => exact ⟨ht.watchful, ht.asked⟩
  | start =>
    rw [Tenure.step]
    split
    · rename_i hstarting
      refine ⟨?_, ht.asked⟩
      have hwatchful := ht.watchful
      rw [hstarting.1] at hwatchful
      exact hwatchful
    · exact ht
  | raise =>
    rw [Tenure.step]
    split
    · exact ⟨ht.watchful.raise, ht.asked.withDuty rfl⟩
    · exact ht
  | join =>
    rw [Tenure.step]
    split
    · rename_i hjoining
      refine ⟨?_, ht.asked⟩
      have hwatchful := ht.watchful
      rw [hjoining.1] at hwatchful
      exact hwatchful
    · exact ht
  | turn x =>
    rw [Tenure.step]
    split
    · obtain ⟨hasked, hfollows⟩ := ht.asked.act x
      exact ⟨ht.watchful.follows hfollows, hasked⟩
    · exact ht
  | answer token result =>
    obtain ⟨hasked, hfollows⟩ := ht.asked.answer token result
    exact ⟨ht.watchful.follows hfollows, hasked⟩
  | traffic sockets =>
    exact ⟨ht.watchful.follows (follows_withDuty rfl), ht.asked.withDuty rfl⟩

theorem Sound.run (ht : t.Sound) (moves : List Move) : (t.run moves).Sound := by
  unfold Tenure.run
  induction moves generalizing t with
  | nil => exact ht
  | cons x rest ih => exact ih (ht.step x)

/-- What is true of a worker and its owner at any time. -/
structure Heeded (t : Tenure) : Prop where
  /-- The owner's request can be read until the worker has heard of it or has ended. -/
  kept : t.owner.hasRaised = true → t.body.heard = false → t.body.ending = .waiting →
    t.body.duty.stop.isReadable = true
  /-- Until then no wait can block, if the request for the stop counter found its place. -/
  wakes : t.owner.hasRaised = true → t.body.heard = false → t.body.idle = true →
    stopToken ∉ t.body.unarmed → t.body.mayBlock = false
  /-- The worker hears of no request but its owner's. -/
  own : t.body.heard = true → t.owner.hasRaised = true
  /-- The worker leaves only when it has heard or after a failure that repeating does not mend. -/
  left : t.body.ending ≠ .waiting → t.body.Left

theorem Sound.heeded (ht : t.Sound) : t.Heeded := by
  have hkept := ht.watchful.kept
  refine ⟨hkept, ?_, fun hheard => ht.watchful.own (Or.inr hheard), ht.watchful.left⟩
  intro hraised hnot hidle harmed
  have hreadable := hkept hraised hnot (ending_of_idle hidle)
  have hasked := ht.asked
  cases hbody : t.body with
  | loop s =>
    rw [hbody] at hreadable
    show (!(Body.loop s).duty.stop.isReadable && _) = false
    rw [hreadable, Bool.not_true, Bool.false_and]
  | ring s =>
    rw [hbody] at hreadable hidle harmed hasked
    exact RingRun.Asked.mayBlock_eq_false hasked hidle hreadable harmed

/-- The owner's request is found where the kernel looks: a worker that waits with poll, select or
epoll has told it the stop counter's number. -/
theorem found_run {b : Body} {s : LoopRun} (h : b.Fresh) (hfit : b.IsFit) (moves : List Move)
    (hbody : (run { body := b } moves).body = .loop s)
    (hraised : (run { body := b } moves).owner.hasRaised = true) (hnot : s.heard = false)
    (hwaiting : s.ending = .waiting) :
    s.stopNumber ∈ s.interest ∧ s.isReadableAt s.stopNumber = true := by
  have hstart : Sound { body := b } := ⟨h.watchful, h.asked⟩
  have hkept := (hstart.run moves).watchful.kept
  have hfits := isFit_run hfit moves
  rw [hbody] at hkept hfits
  have hreadable : s.duty.stop.isReadable = true := hkept hraised hnot hwaiting
  refine ⟨LoopRun.IsFit.mem_interest hfits |>.mpr (Or.inl rfl), ?_⟩
  rw [LoopRun.isReadableAt, hreadable, decide_eq_true rfl]
  rfl

/-- **A stop request is never lost.** A worker with poll, select, epoll or a ring, its owner, and
the kernel act in any order; the owner asks at any time once the worker is ready, and what the waits
report may be wrong. -/
theorem heeded_run (b : Body) (h : b.Fresh) (moves : List Move) :
    (run { body := b } moves).Heeded := by
  have hstart : Sound { body := b } := ⟨h.watchful, h.asked⟩
  exact (hstart.run moves).heeded

/-- An epoll worker that is asked before its first wait, and a worker with a ring whose first answer
about its stop counter is wrong: neither can block then, and both are joined in the end. -/
theorem heeded_run_two_workers :
    let watched : List Watched := [⟨0, 5⟩]
    let d : Duty := { watched, buffer := .zeroed 4, stop := {}, sockets := #[{}] }
    let loop : Body := .loop { mechanism := .epoll, stopNumber := 9, duty := d }
    let ring : Body := .ring { worker := {
      ring := .watching readMask watched 9, stopNumber := 9, duty := d } }
    let asked : List Move := [.ready, .start, .raise]
    let ends : List Move := [.turn (.wait (.error (.errno Errno.interrupted))),
      .turn (.wait (.ok (.tokens [0, stopToken]))), .turn .work, .turn .work, .join]
    let misled : List Move := [.answer stopToken 1, .ready, .turn (.fetch none),
      .turn (.handle .all), .start, .raise]
    let answered : List Move := [.turn (.submit .all), .answer stopToken 1, .turn (.fetch none),
      .turn (.handle .all), .join]
    (run { body := loop } asked).body.mayBlock = false ∧
      (run { body := loop } (asked ++ ends)).owner = .joined ∧
      (run { body := loop } (asked ++ ends)).Heeded ∧
      (run { body := ring } misled).body.mayBlock = false ∧
      (run { body := ring } (misled ++ answered)).owner = .joined ∧
      (run { body := ring } (misled ++ answered)).Heeded := by
  intro watched d loop ring asked ends misled answered
  have hring : ring.Fresh :=
    .ring readMask _ rfl (by decide) (Ring.installed_watching readMask watched 9)
  refine ⟨by decide, by decide, ?_, by decide, by decide, ?_⟩
  · exact heeded_run loop (.loop .epoll 9 d rfl) (asked ++ ends)
  · exact heeded_run ring hring (misled ++ answered)

end Tenure

end ReadinessBench

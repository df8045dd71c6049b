import ReadinessBench.Proofs.Ring.OneShot

/-!
# Workers that are deaf

A worker at its ring hears of a stop request only through the request that it has made for the stop
counter. That request answers once like any other. If it is answered for nothing while the queue is
full, and handing the queue over makes no room, the worker reports that it could not ask again and
goes on. From then on nobody can stop it. Main statement: `hearing_complete`.
-/

namespace ReadinessBench

namespace Ring

variable {r : Ring} {q : PollRequest} {h : Handover}

/-- The queue is full, and it is still full when it has been handed over. -/
def IsStuck (r : Ring) (h : Handover) : Prop := queueDepth ≤ (r.submit h).2.queued.length

instance (r : Ring) (h : Handover) : Decidable (r.IsStuck h) :=
  inferInstanceAs (Decidable (_ ≤ _))

theorem length_queued_submit_le (r : Ring) (h : Handover) :
    (r.submit h).2.queued.length ≤ r.queued.length := by
  cases h with
  | failed f => exact Nat.le_refl _
  | took n =>
    show (r.queued.drop n).length ≤ r.queued.length
    rw [List.length_drop]
    exact Nat.sub_le _ _

theorem arm_of_stuck (hstuck : r.IsStuck h) : ∃ f r', r.arm q h = (.error f, r') := by
  have hfull : ¬ r.queued.length < queueDepth :=
    Nat.not_lt.mpr (Nat.le_trans hstuck (r.length_queued_submit_le h))
  unfold arm
  rw [push, if_neg hfull]
  cases h with
  | failed f => exact ⟨f, r, rfl⟩
  | took n =>
    have hstill : ¬ (r.queued.drop n).length < queueDepth := Nat.not_lt.mpr hstuck
    simp only [submit, push, if_neg hstill]
    exact ⟨full, _, rfl⟩

theorem arm_of_not_stuck (hroom : ¬ r.IsStuck h) : ∃ r', r.arm q h = (.ok (), r') := by
  unfold arm
  by_cases hfirst : r.queued.length < queueDepth
  · rw [push, if_pos hfirst]
    exact ⟨_, rfl⟩
  · rw [push, if_neg hfirst]
    cases h with
    -- what fails to be handed over stays where it was
    | failed f => exact absurd (Nat.not_lt.mp hfirst) hroom
    | took n =>
      have hsecond : (r.queued.drop n).length < queueDepth := Nat.not_le.mp hroom
      simp only [submit, push, if_pos hsecond]
      exact ⟨_, rfl⟩

end Ring

namespace RingWorker

variable {w : RingWorker} {token : UInt64} {result : Int32} {h : Handover}

/-- A request for the stop counter is in the queue or with the kernel. -/
def Listens (w : RingWorker) : Prop := stopToken ∈ w.ring.tokens

instance (w : RingWorker) : Decidable w.Listens := inferInstanceAs (Decidable (_ ∈ _))

/-- The answer ends the worker: there is a stop request, or the request for it failed for good. -/
def Ends (w : RingWorker) (token : UInt64) (result : Int32) : Prop :=
  token = stopToken ∧ (FailsForGood result ∨ 0 ≤ result.toInt ∧ w.duty.stop.isReadable = true)

instance (w : RingWorker) (token : UInt64) (result : Int32) : Decidable (w.Ends token result) :=
  inferInstanceAs (Decidable (_ ∧ _))

/-- The stop counter's request has been answered for nothing, it was the only one, and there is no
place for another. -/
def TurnsDeaf (w : RingWorker) (token : UInt64) (result : Int32) (h : Handover) : Prop :=
  token = stopToken ∧ ¬ w.Listens ∧ ¬ w.Ends token result ∧ w.ring.IsStuck h

instance (w : RingWorker) (token : UInt64) (result : Int32) (h : Handover) :
    Decidable (w.TurnsDeaf token result h) :=
  inferInstanceAs (Decidable (_ ∧ _ ∧ _ ∧ _))

/-! ## Asking again -/

theorem rearm_of_stuck {q : PollRequest} (hstuck : w.ring.IsStuck h) :
    ∃ f ring, w.rearm q h = ([.rearmFailed f], { w with ring }) ∧
      ring.known = w.ring.known := by
  obtain ⟨f, r, harm⟩ := Ring.arm_of_stuck (q := q) hstuck
  rcases w.ring.arm_cases q h with ⟨r', hok, -⟩ | ⟨f', r', herror, hknown⟩
  · rw [harm] at hok
    cases hok
  · exact ⟨f', r', by rw [rearm, herror], hknown⟩

theorem rearm_of_not_stuck {q : PollRequest} (hroom : ¬ w.ring.IsStuck h) :
    ∃ ring, w.rearm q h = ([], { w with ring }) ∧ ring.known = w.ring.known ++ [q] := by
  obtain ⟨r, harm⟩ := Ring.arm_of_not_stuck (q := q) hroom
  rcases w.ring.arm_cases q h with ⟨r', hok, hknown⟩ | ⟨f', r', herror, -⟩
  · exact ⟨r', by rw [rearm, hok], hknown⟩
  · rw [harm] at herror
    cases herror

theorem listens_rearm (number : Nat) :
    (w.rearm ⟨token, number⟩ h).2.Listens ↔
      w.Listens ∨ token = stopToken ∧ ¬ w.ring.IsStuck h := by
  by_cases hstuck : w.ring.IsStuck h
  · obtain ⟨f, ring, hrearm, hknown⟩ := rearm_of_stuck (q := ⟨token, number⟩) hstuck
    rw [hrearm, Listens, Ring.tokens, hknown]
    simp only [hstuck, not_true_eq_false, and_false, or_false]
    rfl
  · obtain ⟨ring, hrearm, hknown⟩ := rearm_of_not_stuck (q := ⟨token, number⟩) hstuck
    rw [hrearm, Listens, Ring.tokens, hknown, List.map_append, List.mem_append]
    simp only [hstuck, not_false_eq_true, and_true, List.map_singleton, List.mem_singleton,
      eq_comm]
    rfl

/-! ## The answer to the stop counter's request -/

theorem numberOf?_stopToken (w : RingWorker) : w.numberOf? stopToken = some w.stopNumber :=
  if_pos rfl

/-- A worker that is not ended by the answer asks again. -/
theorem complete_stop_of_not_ends (hends : ¬ w.Ends stopToken result) :
    w.complete stopToken result h = (.goOn, w.rearm ⟨stopToken, w.stopNumber⟩ h) := by
  have hgood : ¬ FailsForGood result := fun hfails => hends ⟨rfl, Or.inl hfails⟩
  unfold complete
  rw [numberOf?_stopToken]
  by_cases hneg : result.toInt < 0
  -- a failure that may pass
  · have hleast : result ≠ Int32.minValue := by
      rintro rfl
      exact hgood (by decide)
    simp only [outcome_of_neg hleast hneg, settle, (isTransient_errno_iff hneg).mpr hgood, if_true]
  -- the descriptor was reported readable, but nobody has raised the counter
  · have hnonneg : 0 ≤ result.toInt := Int.not_lt.mp hneg
    have hquiet : w.duty.stop.isReadable ≠ true :=
      fun hraised => hends ⟨rfl, Or.inr ⟨hnonneg, hraised⟩⟩
    simp only [outcome_of_nonneg hnonneg, settle, handle, if_true]
    rcases w.duty.acknowledge_cases with ⟨hraised, -⟩ | ⟨-, hack⟩
    · exact absurd hraised hquiet
    · rw [hack]

theorem complete_stop_of_ends (hends : w.Ends stopToken result)
    (hleast : result ≠ Int32.minValue) : (w.complete stopToken result h).1 = .exit := by
  unfold complete
  rw [numberOf?_stopToken]
  rcases hends.2 with hfails | ⟨hnonneg, hraised⟩
  · have hpermanent : (Failure.errno (-result.toInt)).isTransient = false := by
      rw [← Bool.not_eq_true, isTransient_errno_iff hfails.1, not_not]
      exact hfails
    simp only [outcome_of_neg hleast hfails.1, settle, hpermanent, Bool.false_eq_true, if_false,
      if_true]
  · simp only [outcome_of_nonneg hnonneg, settle, handle, if_true]
    rcases w.duty.acknowledge_cases with ⟨-, hack⟩ | ⟨hquiet, -⟩
    · rw [hack]
    · rw [hraised] at hquiet
      cases hquiet

theorem complete_exit_iff :
    (w.complete token result h).1 = .exit ↔ w.Ends token result ∧ result ≠ Int32.minValue := by
  constructor
  · intro hexit
    by_cases htoken : token = stopToken
    · subst htoken
      by_cases hends : w.Ends stopToken result
      · refine ⟨hends, ?_⟩
        rintro rfl
        rw [complete, numberOf?_stopToken] at hexit
        cases hexit
      · rw [complete_stop_of_not_ends hends] at hexit
        cases hexit
    -- no other answer ends a worker
    · have hcompletion := w.complete_cases token result h
      generalize w.complete token result h = outcome at hcompletion hexit
      cases hcompletion with
      | passedOver | collapsed | renewed => cases hexit
      | failed =>
        rw [if_neg htoken] at hexit
        cases hexit
      | stopped hstop => exact absurd hstop htoken
  · rintro ⟨hends, hleast⟩
    obtain rfl : token = stopToken := hends.1
    exact complete_stop_of_ends hends hleast

/-- A worker that listens and goes on listens on, unless this answer makes it deaf. -/
theorem listens_complete (hheard : token = stopToken ∨ w.Listens)
    (hgoesOn : (w.complete token result h).1 = .goOn) :
    (w.complete token result h).2.2.Listens ↔ ¬ w.TurnsDeaf token result h := by
  by_cases htoken : token = stopToken
  · subst htoken
    have hends : ¬ w.Ends stopToken result := by
      intro hends
      by_cases hleast : result = Int32.minValue
      · subst hleast
        rw [complete, numberOf?_stopToken] at hgoesOn
        cases hgoesOn
      · rw [complete_stop_of_ends hends hleast] at hgoesOn
        cases hgoesOn
    rw [complete_stop_of_not_ends hends, listens_rearm, TurnsDeaf]
    simp only [true_and, hends, not_false_eq_true]
    tauto
  -- the request for the stop counter is not the one that was answered
  · have hlistens : w.Listens := hheard.resolve_left htoken
    have hstill : (w.complete token result h).2.2.Listens := by
      have hcompletion := w.complete_cases token result h
      generalize w.complete token result h = outcome at hcompletion
      cases hcompletion with
      | passedOver | collapsed | failed | stopped => exact hlistens
      | renewed number d => exact (listens_rearm number).mpr (Or.inl hlistens)
    exact ⟨fun _ hdeaf => htoken hdeaf.1, fun _ => hstill⟩

theorem complete_of_turnsDeaf (hdeaf : w.TurnsDeaf token result h) :
    (w.complete token result h).1 = .goOn ∧
      (∃ f, (w.complete token result h).2.1 = [.rearmFailed f]) ∧
      ¬ (w.complete token result h).2.2.Listens := by
  obtain ⟨rfl, -, hends, hstuck⟩ := id hdeaf
  have hgoesOn : (w.complete stopToken result h).1 = .goOn := by
    rw [complete_stop_of_not_ends hends]
  refine ⟨hgoesOn, ?_, fun hlistens => (listens_complete (Or.inl rfl) hgoesOn).mp hlistens hdeaf⟩
  obtain ⟨f, ring, hrearm, -⟩ := rearm_of_stuck (q := ⟨stopToken, w.stopNumber⟩) hstuck
  exact ⟨f, by rw [complete_stop_of_not_ends hends, hrearm]⟩

end RingWorker

namespace RingRun

open RingWorker

variable {s : RingRun} {token : UInt64} {result : Int32} {rest : List (UInt64 × Int32)}

theorem worker_handle (s : RingRun) (h : Handover) :
    (s.handle h token result rest).worker = (s.worker.complete token result h).2.2 :=
  rfl

theorem ending_handle (s : RingRun) (h : Handover) :
    (s.handle h token result rest).ending = (s.worker.complete token result h).1.ending :=
  rfl

theorem answers_handle (s : RingRun) (h : Handover) :
    (s.handle h token result rest).batch ++ (s.handle h token result rest).completed =
      rest ++ s.completed :=
  rfl

/-- No request for the stop counter is on its way, and the worker has not been stopped. -/
structure Deaf (s : RingRun) : Prop where
  unheard : stopToken ∉ s.outstanding
  unstopped : s.ending ≠ .stopped

namespace Deaf

theorem answer (hs : Deaf s) (token : UInt64) (result : Int32) : Deaf (s.answer token result) := by
  refine ⟨fun hmem => hs.unheard ((s.outstanding_answer token result).mem_iff.mp hmem), ?_⟩
  unfold RingRun.answer
  split
  · exact hs.unstopped
  · exact hs.unstopped

theorem submit (hs : Deaf s) (h : Handover) : Deaf (s.submit h) := by
  refine ⟨by rw [outstanding_submit]; exact hs.unheard, ?_⟩
  unfold RingRun.submit
  split
  · exact hs.unstopped
  · exact hs.unstopped

theorem fetch (hs : Deaf s) (failure : Option Failure) : Deaf (s.fetch failure) := by
  refine ⟨by rw [outstanding_fetch]; exact hs.unheard, ?_⟩
  unfold RingRun.fetch
  split
  · split
    · exact ServiceEnd.noConfusion
    · exact hs.unstopped
  · exact hs.unstopped

theorem handle (hs : Deaf s) (h : Handover) (hbatch : s.batch = (token, result) :: rest) :
    Deaf (s.handle h token result rest) := by
  have htoken : token ≠ stopToken := by
    rintro rfl
    apply hs.unheard
    rw [outstanding, hbatch]
    exact List.mem_cons_self
  constructor
  -- only a request that has been answered is made again
  · rcases outstanding_handle h hbatch with hperm | ⟨hcons, -⟩
    · exact fun hmem => hs.unheard (hperm.mem_iff.mp hmem)
    · intro hmem
      apply hs.unheard
      rw [hcons]
      exact List.mem_cons_of_mem token hmem
  · rw [ending_handle]
    cases hverdict : (s.worker.complete token result h).1 with
    | goOn => exact ServiceEnd.noConfusion
    | exit => exact absurd (complete_exit_iff.mp hverdict).1.1 htoken
    | collapse r => exact ServiceEnd.noConfusion

theorem step (hs : Deaf s) (x : Move) : Deaf (s.step x) := by
  cases x with
  | answer token result => exact hs.answer token result
  | submit h => exact hs.submit h
  | fetch failure => exact hs.fetch failure
  | handle h =>
    show Deaf (s.handleNext h)
    unfold handleNext
    split
    · rename_i hbatch
      exact hs.handle h hbatch
    · exact hs
  | raise => exact ⟨hs.unheard, hs.unstopped⟩
  | traffic sockets => exact ⟨hs.unheard, hs.unstopped⟩

theorem run (hs : Deaf s) (moves : List Move) : Deaf (s.run moves) := by
  unfold RingRun.run
  induction moves generalizing s with
  | nil => exact hs
  | cons x rest ih => exact ih (hs.step x)

end Deaf

/-- A worker that does not listen and has no answer left that it could hear. -/
theorem deaf_of_not_listens (hworker : ¬ s.worker.Listens) (hending : s.ending ≠ .stopped)
    (hanswers : stopToken ∉ (s.batch ++ s.completed).map Prod.fst) : Deaf s :=
  ⟨fun hmem => (List.mem_append.mp hmem).elim hanswers hworker, hending⟩

end RingRun

namespace RingWorker

/-- **When a worker goes on without listening.** The worker is in any state in which the stop
counter's request is on its way or has just been answered; the answer may be any, and so may be what
becomes of handing the queue over. If the worker goes on, it listens, with one exception: the answer
was that of the stop counter's only request, it did not end the worker, and the queue was full and
stayed so. Such a worker reports that it could not ask again and goes on all the same, and whatever
happens from then on, no stop request ends it. It exits exactly if there is a stop request or the
request for it has failed for good. -/
theorem hearing_complete (w : RingWorker) (token : UInt64) (result : Int32) (h : Handover)
    (hheard : token = stopToken ∨ w.Listens) :
    ((w.complete token result h).1 = .goOn →
        ((w.complete token result h).2.2.Listens ↔ ¬ w.TurnsDeaf token result h)) ∧
      (w.TurnsDeaf token result h →
        (w.complete token result h).1 = .goOn ∧
          (∃ f, (w.complete token result h).2.1 = [.rearmFailed f]) ∧
          ∀ (s : RingRun) (moves : List RingRun.Move),
            s.worker = (w.complete token result h).2.2 → s.ending = .waiting →
            stopToken ∉ (s.batch ++ s.completed).map Prod.fst →
            (s.run moves).ending ≠ .stopped) ∧
      ((w.complete token result h).1 = .exit ↔
        w.Ends token result ∧ result ≠ Int32.minValue) := by
  refine ⟨listens_complete hheard, ?_, complete_exit_iff⟩
  intro hdeaf
  obtain ⟨hgoesOn, hreported, hunheard⟩ := complete_of_turnsDeaf hdeaf
  refine ⟨hgoesOn, hreported, ?_⟩
  intro s moves hworker hwaiting hanswers
  have hs : RingRun.Deaf s := by
    refine RingRun.deaf_of_not_listens ?_ (by rw [hwaiting]; exact ServiceEnd.noConfusion) hanswers
    rw [hworker]
    exact hunheard
  exact (hs.run moves).unstopped

/-- A worker of 64 pairs that has handled an answer for each of them and asked again, which has
filled its queue. The answer of the stop counter's request comes next, and nobody has asked the
worker to stop. -/
def crowded : RingRun :=
  let watched : List Watched := (List.range 64).map fun i => ⟨i, i + 5⟩
  let answers := (List.range 64).map fun i => RingRun.Move.answer (UInt64.ofNat i) 1
  RingRun.run
    { worker := {
        ring := .watching readMask watched 99
        stopNumber := 99
        duty := { watched, buffer := .zeroed 1, stop := {}, sockets := .replicate 64 .fresh } } }
    (answers ++ [.answer stopToken 1, .fetch none] ++ List.replicate 64 (.handle .all))

theorem crowded_turnsDeaf :
    crowded.worker.TurnsDeaf stopToken 1 (.failed (.errno Errno.busy)) := by
  decide +kernel

/-- The kernel is too busy to take the queue: the worker goes on, and it does not hear of the stop
request that is made then. -/
theorem hearing_complete_crowded :
    let h : Handover := .failed (.errno Errno.busy)
    let s := crowded.handle h stopToken 1 []
    let moves : List RingRun.Move := [.raise, .submit .all, .answer stopToken 1, .answer 0 1,
      .fetch none, .handle .all]
    crowded.batch = [(stopToken, 1)] ∧ crowded.worker.TurnsDeaf stopToken 1 h ∧
      (stopToken = stopToken ∨ crowded.worker.Listens) ∧
      (crowded.worker.complete stopToken 1 h).1 = .goOn ∧ (s.run moves).ending ≠ .stopped := by
  intro h s moves
  have hanswers : crowded.batch = [(stopToken, 1)] ∧ crowded.completed = [] := by decide +kernel
  obtain ⟨-, hgoesOn, -⟩ := hearing_complete crowded.worker stopToken 1 h (Or.inl rfl)
  obtain ⟨hverdict, -, hrun⟩ := hgoesOn crowded_turnsDeaf
  refine ⟨hanswers.1, crowded_turnsDeaf, Or.inl rfl, hverdict, ?_⟩
  apply hrun s moves (crowded.worker_handle h)
  · rw [crowded.ending_handle, hverdict]
    rfl
  · rw [crowded.answers_handle, hanswers.2]
    exact List.not_mem_nil

/-- Listening, a worker does not go on listening in every case: not if its queue is full. Nor does
it exit whenever the stop counter's request has failed for good: the least result has no error
number, and the worker collapses over it. -/
theorem not_hearing_crowded :
    (¬ ∀ (w : RingWorker) (token : UInt64) (result : Int32) (h : Handover),
      token = stopToken ∨ w.Listens → (w.complete token result h).1 = .goOn →
        (w.complete token result h).2.2.Listens) ∧
      ¬ ∀ (w : RingWorker) (result : Int32) (h : Handover),
        FailsForGood result → (w.complete stopToken result h).1 = .exit := by
  constructor
  · intro hall
    obtain ⟨hgoesOn, -, hunheard⟩ := complete_of_turnsDeaf crowded_turnsDeaf
    exact hunheard (hall _ _ _ _ (Or.inl rfl) hgoesOn)
  · intro hall
    have hexit := hall crowded.worker Int32.minValue .all (by decide)
    exact (complete_exit_iff.mp hexit).2 rfl

end RingWorker

end ReadinessBench

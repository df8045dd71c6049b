import ReadinessBench.Proofs.Stop.Tenure

/-!
# How workers leave

Every step of a worker does one of two things about its stop request: nothing, or it takes the
request from the counter and is the last one. And a step that ends the worker gives a reason for it:
a stop request, a wait that failed, or a request to the ring that failed for good.
-/

namespace ReadinessBench

namespace Body

/-- How a worker has left its loop. -/
inductive Left (b : Body) : Prop where
  /-- It has taken a stop request from its counter. -/
  | heard (hending : b.ending = .stopped) (hheard : b.heard = true)
  | waitFailed (f : Failure) (hending : b.ending = .broken) (hfailure : b.failure = some f)
      (hfatal : b.Fatal f)
  /-- The request to the ring for the stop counter has failed. -/
  | requestFailed (result : Int32) (hending : b.ending = .stopped)
      (hhandled : (stopToken, result) ∈ b.handled) (hfails : RingWorker.FailsForGood result)

/-- What a move of anybody but the owner does about the end of a worker. -/
structure Follows (b b' : Body) : Prop where
  stop : (b'.duty.stop = b.duty.stop ∧ b'.heard = b.heard) ∨
    (b.duty.stop.isReadable = true ∧ b'.heard = true)
  waiting : b'.ending = .waiting → b.ending = .waiting
  left : (b.ending ≠ .waiting → b.Left) → b'.ending ≠ .waiting → b'.Left

theorem Follows.refl (b : Body) : Follows b b :=
  ⟨Or.inl ⟨rfl, rfl⟩, id, id⟩

theorem Follows.of_waiting {b b' : Body} (hstop : b'.duty.stop = b.duty.stop)
    (hheard : b'.heard = b.heard) (hbefore : b.ending = .waiting) (hending : b'.ending = .waiting) :
    Follows b b' :=
  ⟨Or.inl ⟨hstop, hheard⟩, fun _ => hbefore, fun _ hended => absurd hending hended⟩

theorem Left.of_same {b b' : Body} (h : b.Left) (hending : b'.ending = b.ending)
    (hheard : b'.heard = b.heard) (hfailure : b'.failure = b.failure)
    (hfatal : b'.Fatal = b.Fatal) (hhandled : b'.handled = b.handled) : b'.Left := by
  cases h with
  | heard hstopped hyes => exact .heard (hending.trans hstopped) (hheard.trans hyes)
  | waitFailed f hbroken hf hfails =>
    refine .waitFailed f (hending.trans hbroken) (hfailure.trans hf) ?_
    rw [hfatal]
    exact hfails
  | requestFailed result hstopped hmem hfails =>
    refine .requestFailed result (hending.trans hstopped) ?_ hfails
    rw [hhandled]
    exact hmem

end Body

open Body

namespace LoopRun

theorem follows_wait (s : LoopRun) (result : Except Failure WaitReport) :
    Follows (.loop s) (.loop (s.wait result)) := by
  unfold wait
  split
  · rename_i hidle
    have hwaiting : s.ending = .waiting := (idle_iff.mp hidle).1
    -- only a failure that is no interruption ends the worker
    cases result with
    | ok report => exact .of_waiting rfl rfl hwaiting hwaiting
    | error f =>
      cases hinterruption : f.isInterruption with
      | true =>
        simp only [retryWait, hinterruption, if_true]
        exact .refl _
      | false =>
        simp only [retryWait, hinterruption, Bool.false_eq_true, if_false]
        exact ⟨Or.inl ⟨rfl, rfl⟩, ServiceEnd.noConfusion,
          fun _ _ => .waitFailed f rfl rfl hinterruption⟩
  · exact .refl _

theorem follows_work (s : LoopRun) : Follows (.loop s) (.loop s.work) := by
  unfold work
  split
  · rename_i job rest hwaiting htodo
    cases job with
    | echo pair =>
      have hstop : (s.duty.echo pair).stop = s.duty.stop := s.duty.stop_echo pair
      refine .of_waiting hstop ?_ hwaiting rfl
      show (s.heard || s.duty.stopTaken (s.duty.echo pair)) = s.heard
      rw [Duty.stopTaken_of_stop_eq hstop, Bool.or_false]
    | acknowledge =>
      have hheard : (s.perform .acknowledge rest).heard =
          (s.heard || s.duty.stopTaken s.duty.acknowledge.2) := rfl
      have hending : (s.perform .acknowledge rest).ending =
          if s.duty.acknowledge.1 then .stopped else .waiting := by
        show Verdict.ending (if s.duty.acknowledge.1 then .exit else .goOn) = _
        split <;> rfl
      rcases s.duty.acknowledge_cases with ⟨hraised, hack⟩ | ⟨-, hack⟩
      · rw [Duty.stopTaken_acknowledge hraised, Bool.or_true] at hheard
        rw [hack, if_pos rfl] at hending
        refine ⟨Or.inr ⟨hraised, hheard⟩, ?_, fun _ _ => .heard hending hheard⟩
        intro hgoesOn
        exact absurd (hending.symm.trans hgoesOn) ServiceEnd.noConfusion
      · have hstop : s.duty.acknowledge.2.stop = s.duty.stop := by rw [hack]
        rw [Duty.stopTaken_of_stop_eq hstop, Bool.or_false] at hheard
        rw [hack, if_neg Bool.false_ne_true] at hending
        exact .of_waiting hstop hheard hwaiting hending
  · exact .refl _

end LoopRun

namespace RingRun

open RingWorker

theorem follows_submit (s : RingRun) (h : Handover) : Follows (.ring s) (.ring (s.submit h)) := by
  unfold submit
  split
  · exact ⟨Or.inl ⟨rfl, rfl⟩, id, fun hleft hended => (hleft hended).of_same rfl rfl rfl rfl rfl⟩
  · exact .refl _

theorem follows_answer (s : RingRun) (token : UInt64) (result : Int32) :
    Follows (.ring s) (.ring (s.answer token result)) := by
  unfold answer
  split
  · exact ⟨Or.inl ⟨rfl, rfl⟩, id, fun hleft hended => (hleft hended).of_same rfl rfl rfl rfl rfl⟩
  · exact .refl _

theorem fatal_of_not_excuses {s : RingRun} {f : Failure} (h : excuses f = false) :
    (Body.ring s).Fatal f := by
  rw [excuses, Bool.or_eq_false_iff, decide_eq_false_iff_not] at h
  exact ⟨h.2, h.1⟩

theorem follows_fetch (s : RingRun) (failure : Option Failure) :
    Follows (.ring s) (.ring (s.fetch failure)) := by
  unfold fetch
  split
  · rename_i hidle
    have hwaiting : s.ending = .waiting := (idle_iff.mp hidle).1
    split
    · rename_i f hfailure
      have hexcuses : excuses f = false := by
        have hnot := (Option.filter_eq_some_iff.mp hfailure).2
        rw [Bool.not_eq_true'] at hnot
        exact hnot
      exact ⟨Or.inl ⟨rfl, rfl⟩, ServiceEnd.noConfusion,
        fun _ _ => .waitFailed f rfl rfl (fatal_of_not_excuses hexcuses)⟩
    · exact .of_waiting rfl rfl hwaiting hwaiting
  · exact .refl _

variable {s : RingRun} {token : UInt64} {result : Int32} {rest : List (UInt64 × Int32)}

theorem follows_handle (h : Handover) (hwaiting : s.ending = .waiting)
    (hresult : result ≠ Int32.minValue) :
    Follows (.ring s) (.ring (s.handle h token result rest)) := by
  -- a counter that nobody has touched has not been heard of
  have hsame : ∀ d : Duty, d.stop = s.worker.duty.stop →
      (s.heard || s.worker.duty.stopTaken d) = s.heard := by
    intro d hstop
    rw [Duty.stopTaken_of_stop_eq hstop, Bool.or_false]
  have hcompletion := s.worker.complete_cases token result h
  unfold handle
  generalize s.worker.complete token result h = outcome at hcompletion ⊢
  cases hcompletion with
  | passedOver => exact .of_waiting rfl (hsame _ rfl) hwaiting rfl
  | collapsed r hleast => exact absurd hleast hresult
  | failed f hfails =>
    by_cases htoken : token = stopToken
    · rw [if_pos htoken]
      refine ⟨Or.inl ⟨rfl, hsame _ rfl⟩, ServiceEnd.noConfusion, fun _ _ => ?_⟩
      apply Left.requestFailed result rfl _ hfails
      show (stopToken, result) ∈ s.handled ++ [(token, result)]
      rw [htoken]
      exact List.mem_append_right _ List.mem_cons_self
    · rw [if_neg htoken]
      exact .of_waiting rfl (hsame _ rfl) hwaiting rfl
  | stopped htoken hraised =>
    have hheard : (s.heard || s.worker.duty.stopTaken s.worker.duty.acknowledge.2) = true := by
      rw [Duty.stopTaken_acknowledge hraised, Bool.or_true]
    exact ⟨Or.inr ⟨hraised, hheard⟩, ServiceEnd.noConfusion, fun _ _ => .heard rfl hheard⟩
  | renewed number d hwork hstop =>
    have hkept : ({ s.worker with duty := d }.rearm ⟨token, number⟩ h).2.duty.stop =
        s.worker.duty.stop := by
      rw [duty_rearm]
      exact hstop
    exact .of_waiting hkept (hsame _ hkept) hwaiting rfl

end RingRun

end ReadinessBench

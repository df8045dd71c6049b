import Mathlib.Data.List.Perm.Basic
import ReadinessBench.Proofs.Ring.Requests
import ReadinessBench.Proofs.Ring.Run

/-!
# One request for each descriptor

A request answers once, and the worker makes a new one only after it has handled the answer. So
there is never more than one request for a descriptor on its way from the queue through the kernel
to the worker, and it is missing only if it has failed for good or if there was no place for the new
one. Main statement: `one_request_run`.
-/

namespace ReadinessBench

namespace RingWorker

theorem rearm_cases (w : RingWorker) (q : PollRequest) (h : Handover) :
    (∃ ring, w.rearm q h = ([], { w with ring }) ∧ ring.known = w.ring.known ++ [q]) ∨
      ∃ f ring, w.rearm q h = ([.rearmFailed f], { w with ring }) ∧
        ring.known = w.ring.known := by
  unfold rearm
  rcases w.ring.arm_cases q h with ⟨ring, harm, hknown⟩ | ⟨f, ring, harm, hknown⟩
  · exact Or.inl ⟨ring, by rw [harm], hknown⟩
  · exact Or.inr ⟨f, ring, by rw [harm], hknown⟩

theorem numberOf?_complete (w : RingWorker) (token : UInt64) (result : Int32) (h : Handover) :
    (w.complete token result h).2.2.numberOf? = w.numberOf? := by
  have hwatched := (w.complete_work token result h).watched_eq
  have hstop : (w.complete token result h).2.2.stopNumber = w.stopNumber := by
    have hcompletion := w.complete_cases token result h
    generalize w.complete token result h = outcome at hcompletion ⊢
    cases hcompletion with
    | passedOver | collapsed | failed | stopped => rfl
    | renewed number d =>
      rcases rearm_cases { w with duty := d } ⟨token, number⟩ h with
        ⟨ring, hrearm, -⟩ | ⟨f, ring, hrearm, -⟩
      · rw [hrearm]
      · rw [hrearm]
  funext t
  unfold numberOf?
  rw [hwatched, hstop]

end RingWorker

namespace RingRun

open RingWorker

variable {s s' : RingRun} {token : UInt64} {result : Int32} {rest : List (UInt64 × Int32)}

/-- The tokens of the requests that are queued, or with the kernel, or answered and not handled. -/
def outstanding (s : RingRun) : List UInt64 :=
  (s.batch ++ s.completed).map Prod.fst ++ s.worker.ring.tokens

/-! ## One move -/

theorem outstanding_answer (s : RingRun) (token : UInt64) (result : Int32) :
    (s.answer token result).outstanding.Perm s.outstanding := by
  unfold answer
  split
  · rename_i hpending
    have hmem : token ∈ s.worker.ring.tokens := by
      rw [Ring.tokens, Ring.known, List.map_append]
      exact List.mem_append_left _ hpending
    show ((s.batch ++ (s.completed ++ [(token, result)])).map Prod.fst ++
      (s.worker.ring.answer token).tokens).Perm s.outstanding
    rw [Ring.tokens_answer hpending, ← List.append_assoc, List.map_append, List.append_assoc]
    exact (List.perm_cons_erase hmem).symm.append_left _
  · exact List.Perm.refl _

theorem outstanding_submit (s : RingRun) (h : Handover) :
    (s.submit h).outstanding = s.outstanding := by
  unfold submit
  split
  · show _ ++ (s.worker.ring.submit h).2.tokens = s.outstanding
    rw [Ring.tokens_submit]
    rfl
  · rfl

theorem outstanding_fetch (s : RingRun) (failure : Option Failure) :
    (s.fetch failure).outstanding = s.outstanding := by
  unfold fetch
  split
  · rename_i hidle
    have hbatch : s.batch = [] := (idle_iff.mp hidle).2
    split
    · rfl
    · show (s.completed ++ []).map Prod.fst ++ _ = (s.batch ++ s.completed).map Prod.fst ++ _
      rw [hbatch, List.append_nil, List.nil_append]
  · rfl

/-- The worker renews the request that it handles, or there is a reason why it does not. -/
theorem outstanding_handle (h : Handover) (hbatch : s.batch = (token, result) :: rest) :
    let s' := s.handle h token result rest
    s'.outstanding.Perm s.outstanding ∨
      s.outstanding = token :: s'.outstanding ∧
        (s.worker.numberOf? token = none ∨ s'.ending ≠ .waiting ∨ FailsForGood result ∨
          token ∈ s'.unarmed) := by
  have hbefore : s.outstanding =
      token :: ((rest ++ s.completed).map Prod.fst ++ s.worker.ring.tokens) := by
    rw [outstanding, hbatch]
    rfl
  have hcompletion := s.worker.complete_cases token result h
  unfold handle
  generalize s.worker.complete token result h = outcome at hcompletion ⊢
  cases hcompletion with
  | passedOver hnone => exact Or.inr ⟨hbefore, Or.inl hnone⟩
  | collapsed r => exact Or.inr ⟨hbefore, Or.inr (Or.inl ServiceEnd.noConfusion)⟩
  | failed f hfails => exact Or.inr ⟨hbefore, Or.inr (Or.inr (Or.inl hfails))⟩
  | stopped => exact Or.inr ⟨hbefore, Or.inr (Or.inl ServiceEnd.noConfusion)⟩
  | renewed number d =>
    rcases rearm_cases { s.worker with duty := d } ⟨token, number⟩ h with
      ⟨ring, hrearm, hknown⟩ | ⟨f, ring, hrearm, hknown⟩
    · -- the new request comes last, behind everything that is on its way
      have htokens : ring.tokens = s.worker.ring.tokens ++ [token] := by
        rw [Ring.tokens, hknown, List.map_append]
        rfl
      left
      rw [hrearm, hbefore]
      show ((rest ++ s.completed).map Prod.fst ++ ring.tokens).Perm _
      rw [htokens, ← List.append_assoc]
      exact List.perm_append_singleton token _
    · have htokens : ring.tokens = s.worker.ring.tokens := by
        rw [Ring.tokens, hknown]
        rfl
      right
      rw [hrearm, hbefore, ← htokens]
      exact ⟨rfl, Or.inr (Or.inr (Or.inr List.mem_cons_self))⟩

/-! ## The whole run -/

/-- The requests for these tokens are each on their way once. -/
structure OneShot (tokens : List UInt64) (s : RingRun) : Prop where
  nodup : s.outstanding.Nodup
  numbered : ∀ t ∈ tokens, s.worker.numberOf? t ≠ none
  armed : ∀ t ∈ tokens, s.ending = .waiting → t ∉ s.unarmed →
    (∀ result, (t, result) ∈ s.handled → ¬ FailsForGood result) → t ∈ s.outstanding

namespace OneShot

variable {tokens : List UInt64}

-- As long as nothing is handled, requests only change their places.
theorem of_perm (hs : OneShot tokens s) (hperm : s'.outstanding.Perm s.outstanding)
    (hnumber : s'.worker.numberOf? = s.worker.numberOf?)
    (hending : s'.ending = .waiting → s.ending = .waiting) (hunarmed : s'.unarmed = s.unarmed)
    (hhandled : s'.handled = s.handled) : OneShot tokens s' := by
  refine ⟨hperm.nodup_iff.mpr hs.nodup, ?_, ?_⟩
  · rw [hnumber]
    exact hs.numbered
  · rw [hunarmed, hhandled]
    intro t ht hwaiting harmed hgood
    exact hperm.mem_iff.mpr (hs.armed t ht (hending hwaiting) harmed hgood)

theorem mono (hs : OneShot tokens s) {fewer : List UInt64} (h : ∀ t ∈ fewer, t ∈ tokens) :
    OneShot fewer s :=
  ⟨hs.nodup, fun t ht => hs.numbered t (h t ht), fun t ht => hs.armed t (h t ht)⟩

-- A token that counts after an answer has been handled has counted before.
theorem mem_outstanding (hs : OneShot tokens s) {h : Handover} (hwaiting : s.ending = .waiting)
    {t : UInt64} (ht : t ∈ tokens) (harmed : t ∉ (s.handle h token result rest).unarmed)
    (hgood : ∀ r, (t, r) ∈ (s.handle h token result rest).handled → ¬ FailsForGood r) :
    t ∈ s.outstanding := by
  apply hs.armed t ht hwaiting
  · intro hmem
    apply harmed
    show t ∈ if reportsUnarmed (s.worker.complete token result h).2.1 then token :: s.unarmed
      else s.unarmed
    split
    · exact List.mem_cons_of_mem token hmem
    · exact hmem
  · intro r hr
    apply hgood r
    exact List.mem_append_left [(token, result)] hr

theorem handle (hs : OneShot tokens s) (h : Handover) (hwaiting : s.ending = .waiting)
    (hbatch : s.batch = (token, result) :: rest) :
    OneShot tokens (s.handle h token result rest) := by
  have hnumbered : ∀ t ∈ tokens, (s.handle h token result rest).worker.numberOf? t ≠ none := by
    show ∀ t ∈ tokens, (s.worker.complete token result h).2.2.numberOf? t ≠ none
    rw [numberOf?_complete]
    exact hs.numbered
  rcases outstanding_handle h hbatch with hperm | ⟨hcons, hreason⟩
  · refine ⟨hperm.nodup_iff.mpr hs.nodup, hnumbered, ?_⟩
    intro t ht _ harmed hgood
    exact hperm.mem_iff.mpr (hs.mem_outstanding hwaiting ht harmed hgood)
  · have hnodup := hs.nodup
    rw [hcons] at hnodup
    refine ⟨(List.nodup_cons.mp hnodup).2, hnumbered, ?_⟩
    intro t ht hgoesOn harmed hgood
    have hmem := hs.mem_outstanding hwaiting ht harmed hgood
    rw [hcons, List.mem_cons] at hmem
    apply hmem.resolve_left
    -- the request that was given up is not one that counts
    rintro rfl
    rcases hreason with hnone | hended | hfailed | hunarmed
    · exact hs.numbered t ht hnone
    · exact hended hgoesOn
    · exact hgood result (List.mem_append_right s.handled List.mem_cons_self) hfailed
    · exact harmed hunarmed

theorem answer (hs : OneShot tokens s) (token : UInt64) (result : Int32) :
    OneShot tokens (s.answer token result) := by
  have hperm := s.outstanding_answer token result
  unfold RingRun.answer at hperm ⊢
  split
  · rename_i hpending
    rw [if_pos hpending] at hperm
    exact hs.of_perm hperm rfl id rfl rfl
  · exact hs

theorem submit (hs : OneShot tokens s) (h : Handover) : OneShot tokens (s.submit h) := by
  have hsame := s.outstanding_submit h
  unfold RingRun.submit at hsame ⊢
  split
  · rename_i hidle
    rw [if_pos hidle] at hsame
    exact hs.of_perm (List.Perm.of_eq hsame) rfl id rfl rfl
  · exact hs

theorem fetch (hs : OneShot tokens s) (failure : Option Failure) :
    OneShot tokens (s.fetch failure) := by
  have hsame := s.outstanding_fetch failure
  unfold RingRun.fetch at hsame ⊢
  split
  · rename_i hidle
    rw [if_pos hidle] at hsame
    split at hsame
    · exact hs.of_perm (List.Perm.of_eq hsame) rfl ServiceEnd.noConfusion rfl rfl
    · exact hs.of_perm (List.Perm.of_eq hsame) rfl id rfl rfl
  · exact hs

theorem handleNext (hs : OneShot tokens s) (h : Handover) : OneShot tokens (s.handleNext h) := by
  unfold RingRun.handleNext
  split
  · rename_i hwaiting hbatch
    exact hs.handle h hwaiting hbatch
  · exact hs

theorem withDuty (hs : OneShot tokens s) {d : Duty} (hwatched : d.watched = s.worker.duty.watched) :
    OneShot tokens (s.withDuty d) := by
  refine hs.of_perm (List.Perm.refl _) ?_ id rfl rfl
  funext t
  show (if t = stopToken then some s.worker.stopNumber
    else d.watched[t.toNat]?.map Watched.number) = s.worker.numberOf? t
  rw [hwatched]
  rfl

theorem step (hs : OneShot tokens s) (x : Move) : OneShot tokens (s.step x) := by
  cases x with
  | answer token result => exact hs.answer token result
  | submit h => exact hs.submit h
  | fetch failure => exact hs.fetch failure
  | handle h => exact hs.handleNext h
  | raise => exact hs.withDuty rfl
  | traffic sockets => exact hs.withDuty rfl

theorem run (hs : OneShot tokens s) (moves : List Move) : OneShot tokens (s.run moves) := by
  unfold RingRun.run
  induction moves generalizing s with
  | nil => exact hs
  | cons x rest ih => exact ih (hs.step x)

-- It begins with one request for each watched pair and one for the stop request.
theorem start {mask : UInt32} {w : RingWorker} (hsize : w.duty.watched.length < UInt64.size)
    (hinstalled : Ring.Installed mask w.duty.watched w.stopNumber w.ring) :
    OneShot ((Ring.requests w.duty.watched w.stopNumber).map PollRequest.token)
      { worker := w } := by
  have houtstanding : outstanding { worker := w } =
      (Ring.requests w.duty.watched w.stopNumber).map PollRequest.token := by
    show [] ++ w.ring.tokens = _
    rw [List.nil_append, Ring.tokens, hinstalled.known_eq]
  refine ⟨?_, ?_, ?_⟩
  · rw [houtstanding]
    exact Ring.nodup_tokens_requests hsize w.stopNumber
  · intro t ht
    rw [Ring.tokens_requests, List.mem_append] at ht
    rcases ht with hposition | hstop
    · obtain ⟨i, hi, rfl⟩ := List.mem_map.mp hposition
      have hlt : i < w.duty.watched.length := List.mem_range.mp hi
      show w.numberOf? (UInt64.ofNat i) ≠ none
      rw [numberOf?, Ring.toNat_token (by omega), List.getElem?_eq_getElem hlt]
      split <;> exact Option.some_ne_none _
    · rw [List.mem_singleton.mp hstop]
      exact Option.some_ne_none w.stopNumber
  · intro t ht _ _ _
    rw [houtstanding]
    exact ht

end OneShot

/-- **No request is lost and none is doubled.** The ring has been set up for any number of pairs
that there are tokens for; the kernel takes as many requests as it likes and answers them in any
order and with any results. There is never more than one request for a token on its way. For a
watched pair and for the stop request there is one as long as the worker goes on, unless it has
failed for good or the queue had no place for the new one. -/
theorem one_request_run (mask : UInt32) (w : RingWorker)
    (hsize : w.duty.watched.length < UInt64.size)
    (hinstalled : Ring.Installed mask w.duty.watched w.stopNumber w.ring) (moves : List Move) :
    let s := run { worker := w } moves
    (∀ token, s.outstanding.count token ≤ 1) ∧
      ∀ token ∈ (Ring.requests w.duty.watched w.stopNumber).map PollRequest.token,
        s.ending = .waiting → token ∉ s.unarmed →
        (∀ result, (token, result) ∈ s.handled → ¬ FailsForGood result) →
        s.outstanding.count token = 1 := by
  intro s
  have hs := (OneShot.start hsize hinstalled).run moves
  refine ⟨List.nodup_iff_count_le_one.mp hs.nodup, ?_⟩
  intro token htoken hwaiting harmed hgood
  exact List.count_eq_one_of_mem hs.nodup (hs.armed token htoken hwaiting harmed hgood)

/-- Three pairs. One request fails for good; one is interrupted and made again, and so is the stop
request's, which was answered without a stop request. -/
theorem one_request_run_three_pairs :
    let watched : List Watched := [⟨0, 5⟩, ⟨1, 6⟩, ⟨2, 7⟩]
    let w : RingWorker := {
      ring := .watching readMask watched 9
      stopNumber := 9
      duty := { watched, buffer := .zeroed 4, stop := {}, sockets := #[{}, {}, {}] } }
    let moves : List Move := [.answer 1 (-4), .answer stopToken 1, .answer 0 (-9), .fetch none,
      .handle .all, .handle .all, .handle .all, .submit (.took 1), .answer 1 1, .fetch none]
    let s := run { worker := w } moves
    s.outstanding = [1, 2, stopToken] ∧ s.handled = [(1, -4), (stopToken, 1), (0, -9)] ∧
      (∀ token, s.outstanding.count token ≤ 1) ∧ s.outstanding.count 1 = 1 := by
  intro watched w moves s
  obtain ⟨hmost, hone⟩ := one_request_run readMask w (by decide)
    (Ring.installed_watching readMask watched 9) moves
  refine ⟨by decide, by decide, hmost, hone 1 (by decide) (by decide) (by decide) ?_⟩
  intro result hresult
  have hhandled : s.handled = [(1, -4), (stopToken, 1), (0, -9)] := by decide
  have hlisted : (1, result) ∈ [((1 : UInt64), (-4 : Int32)), (stopToken, 1), (0, -9)] :=
    hhandled ▸ hresult
  have hinterrupted : result = -4 := by
    simpa [stopToken] using hlisted
  rw [hinterrupted]
  decide

end RingRun

end ReadinessBench

import ReadinessBench.Proofs.Ring.Requests

/-!
# Filling a ring

A new engine asks for all of its pairs and then for its stop counter, through a queue that has fewer
places than there may be pairs. Whenever a request finds the queue full, the queue is handed over
first. Main statement: `filled_ring`.
-/

namespace ReadinessBench

namespace Ring

variable {r : Ring} {q : PollRequest} {h : Handover}

/-- What arming comes to: with the queue full, all hangs on the handover. -/
theorem arm_eq (r : Ring) (q : PollRequest) (h : Handover) :
    r.arm q h =
      if r.queued.length < queueDepth then (.ok (), { r with queued := r.queued ++ [q] })
      else match h with
        | .failed f => (.error f, r)
        | .took n =>
          if (r.queued.drop n).length < queueDepth then
            (.ok (), { r with
              queued := r.queued.drop n ++ [q], pending := r.pending ++ r.queued.take n })
          else
            (.error full, { r with
              queued := r.queued.drop n, pending := r.pending ++ r.queued.take n }) := by
  unfold arm
  by_cases hfirst : r.queued.length < queueDepth
  · rw [push, if_pos hfirst, if_pos hfirst]
  · rw [push, if_neg hfirst, if_neg hfirst]
    cases h with
    | failed f => rfl
    | took n =>
      by_cases hsecond : (r.queued.drop n).length < queueDepth
      · simp only [submit, push, if_pos hsecond]
      · simp only [submit, push, if_neg hsecond]

/-- What was asked for before stays in its order; some of it may have gone to the kernel. -/
def Keeps (r r' : Ring) (added : List PollRequest) : Prop :=
  ∃ n, r'.pending = r.pending ++ r.queued.take n ∧ r'.queued = r.queued.drop n ++ added

/-- Why there is no place for a request: the queue is full, and handing it over fails or leaves it
full. -/
def Refuses (r : Ring) (h : Handover) (f : Failure) : Prop :=
  queueDepth ≤ r.queued.length ∧
    (h = .failed f ∨ f = full ∧ ∃ n, h = .took n ∧ queueDepth ≤ (r.queued.drop n).length)

/-- The request is added if and only if arming succeeds, and it is refused only for want of
a place. -/
structure Arms (r : Ring) (q : PollRequest) (h : Handover) (result : Except Failure Unit)
    (r' : Ring) : Prop where
  added : result = .ok () ↔ Keeps r r' [q]
  kept : result = .ok () ∨ Keeps r r' []
  refused : ∀ f, result = .error f ↔ Refuses r h f

theorem not_keeps_of_keeps {r' : Ring} (h : Keeps r r' []) : ¬ Keeps r r' [q] := by
  obtain ⟨n, hpending, hqueued⟩ := h
  rintro ⟨m, hpending', hqueued'⟩
  -- one request more is known in the one case than in the other
  have hknown : (r'.pending ++ r'.queued).length = r.pending.length + r.queued.length := by
    rw [hpending, hqueued]
    simp only [List.length_append, List.length_take, List.length_drop, List.length_nil]
    omega
  rw [hpending', hqueued'] at hknown
  simp only [List.length_append, List.length_take, List.length_drop,
    List.length_singleton] at hknown
  omega

theorem Arms.of_added {r' : Ring} (hkeeps : Keeps r r' [q]) (hplace : ∀ f, ¬ Refuses r h f) :
    Arms r q h (.ok ()) r' where
  added := iff_of_true rfl hkeeps
  kept := Or.inl rfl
  refused := fun f => iff_of_false (fun herror => nomatch herror) (hplace f)

theorem Arms.of_kept {r' : Ring} {f : Failure} (hkeeps : Keeps r r' [])
    (hrefuses : ∀ f', f = f' ↔ Refuses r h f') : Arms r q h (.error f) r' where
  added := iff_of_false (fun hok => nomatch hok) (not_keeps_of_keeps hkeeps)
  kept := Or.inr hkeeps
  refused := by
    intro f'
    rw [Except.error.injEq]
    exact hrefuses f'

theorem arms_arm (r : Ring) (q : PollRequest) (h : Handover) :
    Arms r q h (r.arm q h).1 (r.arm q h).2 := by
  rw [arm_eq]
  by_cases hroom : r.queued.length < queueDepth
  · rw [if_pos hroom]
    refine .of_added ⟨0, by simp, rfl⟩ ?_
    rintro f ⟨hfull, -⟩
    omega
  · rw [if_neg hroom]
    have hfull : queueDepth ≤ r.queued.length := Nat.not_lt.mp hroom
    cases h with
    | failed f =>
      refine .of_kept ⟨0, by simp, by simp⟩ ?_
      simp [Refuses, hfull]
    | took n =>
      by_cases hsecond : (r.queued.drop n).length < queueDepth
      · simp only [if_pos hsecond]
        refine .of_added ⟨n, rfl, rfl⟩ ?_
        rintro f ⟨-, hfailed | ⟨-, m, hm, hstill⟩⟩
        · cases hfailed
        · cases hm
          omega
      · simp only [if_neg hsecond]
        refine .of_kept ⟨n, rfl, (List.append_nil _).symm⟩ ?_
        intro f
        constructor
        · rintro rfl
          exact ⟨hfull, Or.inr ⟨rfl, n, rfl, Nat.not_lt.mp hsecond⟩⟩
        · rintro ⟨-, hfailed | ⟨rfl, -⟩⟩
          · cases hfailed
          · rfl

end Ring

/-- A ring and how often its queue has been handed over. -/
structure Filling where
  ring : Ring
  handovers : Nat := 0

namespace Filling

variable {s : Filling}

def submit (s : Filling) (h : Handover) : Except Failure Unit × Filling :=
  let (result, ring) := s.ring.submit h
  (result, ⟨ring, s.handovers + 1⟩)

/-- Puts a request into the queue as a ring does, and counts. -/
def arm (s : Filling) (q : PollRequest) (h : Handover) : Except Failure Unit × Filling :=
  match s.ring.push q with
  | .ok ring => (.ok (), { s with ring })
  | .error _ =>
    match s.submit h with
    | (.error f, s) => (.error f, s)
    | (.ok (), s) =>
      match s.ring.push q with
      | .ok ring => (.ok (), { s with ring })
      | .error f => (.error f, s)

/-- Arms one request after another; the kernel takes all that is handed over. The first failure
ends it. -/
def fill (s : Filling) : List PollRequest → Except Failure Filling
  | [] => .ok s
  | q :: rest =>
    match s.arm q .all with
    | (.ok (), s) => s.fill rest
    | (.error f, _) => .error f

theorem arm_ring (s : Filling) (q : PollRequest) (h : Handover) :
    ((s.arm q h).1, (s.arm q h).2.ring) = s.ring.arm q h := by
  unfold arm Ring.arm
  cases hfirst : s.ring.push q with
  | ok r => rfl
  | error _ =>
    cases h with
    | failed f => rfl
    | took n =>
      simp only [submit, Ring.submit]
      generalize ({ s.ring with
        queued := s.ring.queued.drop n
        pending := s.ring.pending ++ s.ring.queued.take n } : Ring) = r
      cases r.push q with
      | ok r' => rfl
      | error f => rfl

/-- The ring after these requests have been armed, with whole queues handed over. -/
def filled (mask : UInt32) (qs : List PollRequest) : Filling :=
  let n := (qs.length - 1) / queueDepth
  { ring := { mask, queued := qs.drop (queueDepth * n), pending := qs.take (queueDepth * n) }
    handovers := n }

theorem length_queued_filled (mask : UInt32) (qs : List PollRequest) :
    (filled mask qs).ring.queued.length ≤ queueDepth := by
  show (qs.drop _).length ≤ queueDepth
  rw [List.length_drop]
  unfold queueDepth
  omega

/-- The kernel takes all of a queue, which is never longer than it can be. -/
theorem submit_all (hfits : s.ring.queued.length ≤ queueDepth) :
    s.submit .all = (.ok (), ⟨{ s.ring with queued := [], pending := s.ring.known },
      s.handovers + 1⟩) := by
  show (Except.ok (), Filling.mk { s.ring with
    queued := s.ring.queued.drop queueDepth
    pending := s.ring.pending ++ s.ring.queued.take queueDepth } _) = _
  rw [List.drop_eq_nil_of_le hfits, List.take_of_length_le hfits, Ring.known]

theorem known_filled (mask : UInt32) (qs : List PollRequest) : (filled mask qs).ring.known = qs :=
  List.take_append_drop _ qs

theorem arm_filled (mask : UInt32) (qs : List PollRequest) (q : PollRequest) :
    (filled mask qs).arm q .all = (.ok (), filled mask (qs ++ [q])) := by
  have hlength : (qs ++ [q]).length - 1 = qs.length := by simp
  unfold arm
  by_cases hroom : (filled mask qs).ring.queued.length < queueDepth
  -- the request joins those that wait already
  · have hsame : qs.length / queueDepth = (qs.length - 1) / queueDepth := by
      simp only [filled, List.length_drop, queueDepth] at hroom ⊢
      omega
    have hle : queueDepth * ((qs.length - 1) / queueDepth) ≤ qs.length := by
      unfold queueDepth
      omega
    rw [Ring.push, if_pos hroom]
    simp only [filled, hlength, hsame, List.drop_append_of_le_length hle,
      List.take_append_of_le_length hle]
  -- the request is the first after a whole number of queues
  · have hnext : qs.length / queueDepth = (qs.length - 1) / queueDepth + 1 := by
      simp only [filled, List.length_drop, queueDepth] at hroom ⊢
      omega
    have hwhole : queueDepth * ((qs.length - 1) / queueDepth + 1) = qs.length := by
      simp only [filled, List.length_drop, queueDepth] at hroom ⊢
      omega
    have hplace : ([] : List PollRequest).length < queueDepth := by decide
    rw [Ring.push, if_neg hroom]
    simp only [submit_all (length_queued_filled mask qs), Ring.push, if_pos hplace, known_filled,
      List.nil_append]
    simp only [filled, hlength, hnext, hwhole, List.drop_left, List.take_left]

theorem fill_filled (mask : UInt32) (done rest : List PollRequest) :
    (filled mask done).fill rest = .ok (filled mask (done ++ rest)) := by
  induction rest generalizing done with
  | nil => rw [List.append_nil, fill]
  | cons q rest ih =>
    simp only [fill, arm_filled]
    rw [ih, List.append_assoc, List.singleton_append]

theorem armAll_of_fill {qs : List PollRequest} {s' : Filling} (h : s.fill qs = .ok s') :
    s.ring.armAll qs = s'.ring := by
  induction qs generalizing s with
  | nil =>
    cases h
    rfl
  | cons q rest ih =>
    have hring := s.arm_ring q .all
    rw [fill] at h
    obtain ⟨result, next, harm⟩ : ∃ result next, s.arm q .all = (result, next) := ⟨_, _, rfl⟩
    rw [harm] at h hring
    cases result with
    | error f => cases h
    | ok =>
      show ((s.ring.arm q .all).2.armAll rest) = s'.ring
      rw [← hring]
      exact ih h

theorem fill_start (mask : UInt32) (qs : List PollRequest) :
    fill { ring := { mask } } qs = .ok (filled mask qs) :=
  fill_filled mask [] qs

theorem handovers_filled (mask : UInt32) (watched : List Watched) (stopNumber : Nat) :
    (filled mask (Ring.requests watched stopNumber)).handovers = watched.length / queueDepth := by
  simp [filled, Ring.requests]

/-- The ring of a new engine is one that has been filled and handed over once more. -/
theorem submit_filled (mask : UInt32) (watched : List Watched) (stopNumber : Nat) :
    (filled mask (Ring.requests watched stopNumber)).submit .all =
      (.ok (), ⟨Ring.watching mask watched stopNumber,
        (filled mask (Ring.requests watched stopNumber)).handovers + 1⟩) := by
  rw [Ring.watching, armAll_of_fill (fill_start mask _)]
  rfl

theorem watching_eq (mask : UInt32) (watched : List Watched) (stopNumber : Nat) :
    (Ring.watching mask watched stopNumber).queued = [] ∧
      (Ring.watching mask watched stopNumber).pending = Ring.requests watched stopNumber := by
  have hsubmit := submit_filled mask watched stopNumber
  rw [submit_all (length_queued_filled mask _), known_filled] at hsubmit
  have hring : _ = Ring.watching mask watched stopNumber := congrArg (fun x => x.2.ring) hsubmit
  rw [← hring]
  exact ⟨rfl, rfl⟩

/-- **A ring can be asked for more than its queue holds.** The kernel takes all that is handed over.
Then no request fails while a new engine asks for any number of pairs, the queue is handed over
once for each whole queue of pairs, and in the end the kernel has every request once and in its
order. And whatever a kernel does, no request is lost when another finds no place. -/
theorem filled_ring (mask : UInt32) (watched : List Watched) (stopNumber : Nat) :
    let asked := Ring.requests watched stopNumber
    let ring := Ring.watching mask watched stopNumber
    (∀ k, ∃ s, fill { ring := { mask } } (asked.take k) = .ok s ∧
      s.ring.queued.length ≤ queueDepth) ∧
    (∃ s, fill { ring := { mask } } asked = .ok s ∧ s.handovers = watched.length / queueDepth ∧
      s.submit .all = (.ok (), ⟨ring, s.handovers + 1⟩)) ∧
    (ring.queued = [] ∧ ring.pending = asked ∧
      asked.map PollRequest.token = (List.range watched.length).map UInt64.ofNat ++ [stopToken]) ∧
    (watched.length < UInt64.size → (asked.map PollRequest.token).Nodup) ∧
    ∀ r q h, Ring.Arms r q h (r.arm q h).1 (r.arm q h).2 := by
  intro asked ring
  obtain ⟨hqueued, hpending⟩ := watching_eq mask watched stopNumber
  refine ⟨?_, ⟨filled mask asked, fill_start mask asked, handovers_filled mask watched stopNumber,
    ?_⟩, ⟨hqueued, hpending, Ring.tokens_requests watched stopNumber⟩,
    fun hsize => Ring.nodup_tokens_requests hsize stopNumber, Ring.arms_arm⟩
  · intro k
    exact ⟨_, fill_start mask (asked.take k), length_queued_filled mask (asked.take k)⟩
  · exact submit_filled mask watched stopNumber

/-- With 128 pairs the queue is handed over twice, the second time for the stop counter's
request. -/
theorem filled_ring_two_queues :
    let watched : List Watched := (List.range 128).map fun i => ⟨i, i + 4⟩
    let asked := Ring.requests watched 132
    (∃ s, fill { ring := { mask := readMask } } asked = .ok s ∧ s.handovers = 2) ∧
      (Ring.watching readMask watched 132).pending = asked ∧
      watched.length < UInt64.size ∧ (asked.map PollRequest.token).Nodup := by
  intro watched asked
  have hlength : watched.length = 128 := by simp [watched]
  have hsize : watched.length < UInt64.size := by
    rw [hlength]
    decide
  obtain ⟨-, ⟨s, hs, hhandovers, -⟩, ⟨-, hpending, -⟩, hnodup, -⟩ :=
    filled_ring readMask watched 132
  rw [hlength] at hhandovers
  exact ⟨⟨s, hs, hhandovers⟩, hpending, hsize, hnodup hsize⟩

end Filling

end ReadinessBench

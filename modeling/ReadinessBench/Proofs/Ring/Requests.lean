import Mathlib.Data.List.Nodup
import ReadinessBench.Watch.Ring

/-!
# The requests of a ring

A ring knows the requests that the kernel has and, after them, those that wait in the queue. A
handover moves the border between the two and nothing else, so whatever the kernel takes, arming
either adds one request at the end or, when it fails, changes nothing.
-/

namespace ReadinessBench

namespace Ring

variable {r : Ring}

/-- All requests, those handed over first. -/
def known (r : Ring) : List PollRequest := r.pending ++ r.queued

def tokens (r : Ring) : List UInt64 := r.known.map PollRequest.token

theorem known_submit (r : Ring) (h : Handover) : (r.submit h).2.known = r.known := by
  cases h with
  | failed f => rfl
  | took n =>
    show r.pending ++ r.queued.take n ++ r.queued.drop n = r.pending ++ r.queued
    rw [List.append_assoc, List.take_append_drop]

theorem known_push {q : PollRequest} {r' : Ring} (h : r.push q = .ok r') :
    r'.known = r.known ++ [q] := by
  unfold push at h
  split at h
  · cases h
    exact (List.append_assoc r.pending r.queued [q]).symm
  · cases h

/-- Arming adds the request, or it fails and the ring knows what it knew. -/
theorem arm_cases (r : Ring) (q : PollRequest) (h : Handover) :
    (∃ r', r.arm q h = (.ok (), r') ∧ r'.known = r.known ++ [q]) ∨
      ∃ f r', r.arm q h = (.error f, r') ∧ r'.known = r.known := by
  have hsubmit := r.known_submit h
  unfold arm
  -- a full queue is handed over, and then the push is tried once more
  cases hfirst : r.push q with
  | ok r₁ => exact Or.inl ⟨r₁, rfl, known_push hfirst⟩
  | error _ =>
    obtain ⟨result, r₁, hhandover⟩ : ∃ result r₁, r.submit h = (result, r₁) := ⟨_, _, rfl⟩
    rw [hhandover] at hsubmit
    cases result with
    | error f => exact Or.inr ⟨f, r₁, by simp only [hhandover], hsubmit⟩
    | ok =>
      cases hsecond : r₁.push q with
      | ok r₂ =>
        refine Or.inl ⟨r₂, by simp only [hhandover, hsecond], ?_⟩
        rw [known_push hsecond, hsubmit]
      | error f => exact Or.inr ⟨f, r₁, by simp only [hhandover, hsecond], hsubmit⟩

theorem tokens_submit (r : Ring) (h : Handover) : (r.submit h).2.tokens = r.tokens := by
  rw [tokens, known_submit, tokens]

theorem tokens_answer {token : UInt64} (h : token ∈ r.pending.map PollRequest.token) :
    (r.answer token).tokens = r.tokens.erase token := by
  have hpending : (r.pending.eraseP (·.token = token)).map PollRequest.token =
      (r.pending.map PollRequest.token).erase token := by
    rw [List.erase_eq_eraseP', List.eraseP_map]
    rfl
  show ((r.pending.eraseP (·.token = token)) ++ r.queued).map PollRequest.token = _
  rw [List.map_append, hpending, tokens, known, List.map_append, List.erase_append_left _ h]

/-! ## The state after creation -/

/-- Arms one request after another, each with what becomes of a handover that it needs. The first
failure ends it. -/
def install (r : Ring) : List (PollRequest × Handover) → Except Failure Ring
  | [] => .ok r
  | (q, h) :: rest =>
    match r.arm q h with
    | (.ok (), r) => r.install rest
    | (.error f, _) => .error f

/-- A ring as a new engine has it: all requests have been armed and the queue has been handed
over once more, whatever the kernel took each time. -/
def Installed (mask : UInt32) (watched : List Watched) (stopNumber : Nat) (ring : Ring) : Prop :=
  ∃ (qs : List (PollRequest × Handover)) (last : Handover) (full : Ring),
    qs.map Prod.fst = requests watched stopNumber ∧
      install { mask } qs = .ok full ∧ full.submit last = (.ok (), ring)

theorem known_install {qs : List (PollRequest × Handover)} {r' : Ring}
    (h : r.install qs = .ok r') : r'.known = r.known ++ qs.map Prod.fst := by
  induction qs generalizing r with
  | nil =>
    rw [install, Except.ok.injEq] at h
    rw [← h, List.map_nil, List.append_nil]
  | cons x rest ih =>
    obtain ⟨q, handover⟩ := x
    rw [install] at h
    rcases r.arm_cases q handover with ⟨r₁, harm, hknown⟩ | ⟨f, r₁, harm, -⟩
    · simp only [harm] at h
      rw [ih h, hknown, List.append_assoc]
      rfl
    · simp only [harm] at h
      cases h

theorem Installed.known_eq {mask : UInt32} {watched : List Watched} {stopNumber : Nat}
    (h : Installed mask watched stopNumber r) : r.known = requests watched stopNumber := by
  obtain ⟨qs, last, full, hqs, hinstall, hsubmit⟩ := h
  have hlast : r.known = full.known := by
    have hkept := full.known_submit last
    rw [hsubmit] at hkept
    exact hkept
  rw [hlast, known_install hinstall, hqs]
  rfl

theorem tokens_requests (watched : List Watched) (stopNumber : Nat) :
    (requests watched stopNumber).map PollRequest.token =
      (List.range watched.length).map UInt64.ofNat ++ [stopToken] := by
  have hpairs : (watched.mapIdx fun i w => (⟨UInt64.ofNat i, w.number⟩ : PollRequest)).map
      PollRequest.token = (List.range watched.length).map UInt64.ofNat := by
    apply List.ext_getElem
    · simp only [List.length_map, List.length_mapIdx, List.length_range]
    · intro i hi hi'
      simp only [List.getElem_map, List.getElem_mapIdx, List.getElem_range]
  rw [requests, List.map_append, hpairs]
  rfl

theorem toNat_token {i : Nat} (h : i < UInt64.size) : (UInt64.ofNat i).toNat = i :=
  UInt64.toNat_ofNat_of_lt' h

/-- No two requests of a new ring have a token in common: a position is below the length of the
list, which is a 64-bit number itself, and so never the token of the stop request. -/
theorem nodup_tokens_requests {watched : List Watched} (hsize : watched.length < UInt64.size)
    (stopNumber : Nat) : ((requests watched stopNumber).map PollRequest.token).Nodup := by
  have hposition : ∀ i ∈ List.range watched.length, i + 1 < UInt64.size := by
    intro i hi
    have hlt := List.mem_range.mp hi
    omega
  have hstop : stopToken ∉ (List.range watched.length).map UInt64.ofNat := by
    intro hmem
    obtain ⟨i, hi, heq⟩ := List.mem_map.mp hmem
    have hlt := hposition i hi
    have hnat : i = stopToken.toNat := by rw [← heq, toNat_token (by omega)]
    have hlast : stopToken.toNat + 1 = UInt64.size := by decide
    omega
  rw [tokens_requests]
  apply List.Nodup.append
  · apply List.Nodup.map_on _ List.nodup_range
    intro i hi j hj heq
    have hi := hposition i hi
    have hj := hposition j hj
    rw [← toNat_token (i := i) (by omega), heq, toNat_token (by omega)]
  · exact List.nodup_singleton stopToken
  · exact List.disjoint_singleton.mpr hstop

/-! ## The truthful kernel -/

theorem arm_all {q : PollRequest} (h : r.queued.length ≤ queueDepth) :
    ∃ r', r.arm q .all = (.ok (), r') ∧ r'.queued.length ≤ queueDepth := by
  unfold arm
  by_cases hroom : r.queued.length < queueDepth
  · refine ⟨{ r with queued := r.queued ++ [q] }, by simp only [push, if_pos hroom], ?_⟩
    show (r.queued ++ [q]).length ≤ queueDepth
    rw [List.length_append, List.length_singleton]
    omega
  · have hempty : r.queued.drop queueDepth = [] := List.drop_eq_nil_of_le h
    have hone : ([] : List PollRequest).length < queueDepth := by decide
    refine ⟨{ r with queued := [q], pending := r.pending ++ r.queued.take queueDepth }, ?_, ?_⟩
    · simp only [push, if_neg hroom, submit, Handover.all, hempty, if_pos hone, List.nil_append]
    · exact hone

theorem install_all {qs : List PollRequest} (h : r.queued.length ≤ queueDepth) :
    r.install (qs.map fun q => (q, .all)) = .ok (r.armAll qs) := by
  induction qs generalizing r with
  | nil => rfl
  | cons q rest ih =>
    obtain ⟨r', harm, hqueued⟩ := arm_all (q := q) h
    have hrest := ih hqueued
    simp only [List.map_cons, install, harm, hrest]
    show Except.ok (r'.armAll rest) = .ok ((r.arm q .all).2.armAll rest)
    rw [harm]

-- The ring of a new engine whose kernel always takes everything.
theorem installed_watching (mask : UInt32) (watched : List Watched) (stopNumber : Nat) :
    Installed mask watched stopNumber (watching mask watched stopNumber) := by
  refine ⟨(requests watched stopNumber).map fun q => (q, .all), .all, _, ?_,
    install_all (Nat.zero_le queueDepth), rfl⟩
  rw [List.map_map]
  exact List.map_id _

end Ring

end ReadinessBench

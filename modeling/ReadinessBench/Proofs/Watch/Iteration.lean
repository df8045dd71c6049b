import ReadinessBench.Proofs.Watch.Attention

/-!
# One iteration

What a worker does between two waits: it echoes where it has been told that there is something to
read, once for each slot, event or answer that says so, and it exits if it has been told of a stop
request that is there, or if a ring's request for the stop counter has failed for good. With poll
and select a worker that exits has not echoed; with epoll and a ring it may have, on the strength
of what stood before the entry that ends it. Main statement: `attentive_wake`.
-/

namespace ReadinessBench

open Notice

/-- An iteration of a worker that is offered these positions, `ahead` before the entry that ends
the worker. -/
structure Iteration (d : Duty) (offered ahead : List Nat) (asked lost : Prop)
    (outcome : Verdict × Duty) : Prop where
  exits : outcome.1 = .exit ↔ asked ∧ d.acknowledge.1 = true ∨ lost
  goesOn : outcome.1 ≠ .exit → outcome = (.goOn, d.echoAll offered)
  leaves : outcome.1 = .exit →
    asked ∧ outcome.2 = (d.echoAll ahead).acknowledge.2 ∨ lost ∧ outcome.2 = d.echoAll ahead
  ahead_before : ahead <+: offered

namespace Iteration

variable {d : Duty} {offered ahead : List Nat} {asked lost : Prop} {outcome : Verdict × Duty}

theorem congr_ahead {ahead' : List Nat} (h : Iteration d offered ahead asked lost outcome)
    (hahead : outcome.1 = .exit → ahead' = ahead) (hbefore : ahead' <+: offered) :
    Iteration d offered ahead' asked lost outcome where
  exits := h.exits
  goesOn := h.goesOn
  leaves := by
    intro hexit
    rw [hahead hexit]
    exact h.leaves hexit
  ahead_before := hbefore

theorem attend (d : Duty) (notices : List Notice) (hsound : .garbled ∉ notices) :
    Iteration d (positions notices) (positions (notices.takeWhile fun n => !n.ends d))
      (.stop ∈ notices) (.deaf ∈ notices) (d.attend notices) := by
  have hbegins : positions (notices.takeWhile fun n => !n.ends d) <+: positions notices :=
    (List.takeWhile_prefix _).filterMap _
  have hack : d.acknowledge.1 = d.stop.isReadable := d.acknowledge_fst
  rcases d.attend_cases notices with ⟨hnone, hattend⟩ | ⟨before, n, after, hsplit, hnone, hlast,
    hattend⟩
  · have hstay : ¬ (.stop ∈ notices ∧ d.acknowledge.1 = true ∨ .deaf ∈ notices) := by
      rintro (⟨hstop, hraised⟩ | hdeaf)
      · have hends := hnone _ hstop
        rw [ends, ← hack, hraised] at hends
        cases hends
      · exact Bool.noConfusion (hnone _ hdeaf)
    rw [hattend]
    exact ⟨⟨fun h => Verdict.noConfusion h, fun h => absurd h hstay⟩, fun _ => rfl,
      fun h => Verdict.noConfusion h, hbegins⟩
  · have hahead : notices.takeWhile (fun n => !n.ends d) = before := by
      rw [hsplit, List.takeWhile_append_of_pos (by simpa using hnone),
        List.takeWhile_cons_of_neg (by simp [hlast]), List.append_nil]
    have hmem : n ∈ notices := by
      rw [hsplit]
      exact List.mem_append_right _ List.mem_cons_self
    rw [hahead] at hbegins ⊢
    rw [hattend]
    cases n with
    | stop =>
      have hraised : (d.echoAll (positions before)).stop.isReadable = true := by
        rw [d.stop_echoAll]
        exact hlast
      rw [Duty.attend_stop_of_readable hraised]
      exact ⟨⟨fun _ => Or.inl ⟨hmem, hack.trans hlast⟩, fun _ => rfl⟩, fun h => absurd rfl h,
        fun _ => Or.inl ⟨hmem, rfl⟩, hbegins⟩
    | deaf =>
      exact ⟨⟨fun _ => Or.inr hmem, fun _ => rfl⟩, fun h => absurd rfl h,
        fun _ => Or.inr ⟨hmem, rfl⟩, hbegins⟩
    | garbled => exact absurd hmem hsound
    | readable | nothing => cases hlast

theorem stopFirst (d : Duty) (raised : Bool) (flags : List Bool) :
    Iteration d (flagged flags) [] (raised = true) False
      (d.attend ((if raised then .stop else .nothing) :: ofFlags 0 flags)) := by
  have hkinds : ∀ n, n = .stop ∨ n = .deaf ∨ n = .garbled → n ∉ ofFlags 0 flags := by
    intro n hn hmem
    rcases mem_ofFlags hmem with rfl | ⟨i, rfl⟩ <;> simp at hn
  have hiteration := Iteration.attend d
    ((if raised then .stop else .nothing) :: ofFlags 0 flags) (by cases raised <;> simp [hkinds])
  have hpositions : positions ((if raised then .stop else .nothing) :: ofFlags 0 flags) =
      flagged flags := by
    cases raised <;> exact positions_ofFlags 0 flags
  have hasked : (.stop ∈ (if raised then Notice.stop else .nothing) :: ofFlags 0 flags) =
      (raised = true) := by
    cases raised <;> simp [hkinds]
  have hlost : (.deaf ∈ (if raised then Notice.stop else .nothing) :: ofFlags 0 flags) = False := by
    cases raised <;> simp [hkinds]
  rw [hpositions, hasked, hlost] at hiteration
  refine hiteration.congr_ahead (fun hexit => ?_) List.nil_prefix
  -- the first notice is the only one that can end the worker
  rcases hiteration.exits.mp hexit with ⟨hraised, hack⟩ | hfalse
  · have hends : Notice.stop.ends d = true := d.acknowledge_fst.symm.trans hack
    rw [if_pos hraised, List.takeWhile_cons_of_neg (by simp [hends])]
    rfl
  · exact hfalse.elim

theorem takeWhile_congr {α : Type} {p q : α → Bool} {xs : List α} (h : ∀ x ∈ xs, p x = q x) :
    xs.takeWhile p = xs.takeWhile q := by
  induction xs with
  | nil => rfl
  | cons x rest ih =>
    rw [List.takeWhile_cons, List.takeWhile_cons, h x List.mem_cons_self,
      ih fun y hy => h y (List.mem_cons_of_mem x hy)]

/-- The entries of a report are attended to one by one. -/
theorem ofEntries (d : Duty) {α : Type} (f : α → Notice) (last : α → Bool) (entries : List α)
    (hsound : ∀ x ∈ entries, f x ≠ .garbled) (hlast : ∀ x ∈ entries, (f x).ends d = last x) :
    Iteration d (entries.filterMap fun x => (f x).position?)
      ((entries.takeWhile (!last ·)).filterMap fun x => (f x).position?)
      (∃ x ∈ entries, f x = .stop) (∃ x ∈ entries, f x = .deaf) (d.attend (entries.map f)) := by
  have hiteration := Iteration.attend d (entries.map f) (by simpa using hsound)
  have htake : entries.takeWhile (fun x => !(f x).ends d) = entries.takeWhile (!last ·) :=
    takeWhile_congr fun x hx => congrArg not (hlast x hx)
  simp only [List.takeWhile_map, positions, List.filterMap_map, List.mem_map] at hiteration
  exact htake ▸ hiteration

end Iteration

theorem PollLoop.wake_iteration (stop : PollSlot) (slots : List PollSlot) (d : Duty) :
    Iteration d (flagged (slots.map PollSlot.isReadable)) [] (stop.isReadable = true) False
      (PollLoop.wake stop slots d) := by
  rw [PollLoop.wake_eq_attend]
  exact Iteration.stopFirst d _ _

theorem SelectLoop.wake_iteration (readable : DescriptorSet) (stopNumber : Nat) (d : Duty) :
    Iteration d (flagged (d.watched.map (readable.contains ·.number))) []
      (readable.contains stopNumber = true) False (SelectLoop.wake readable stopNumber d) := by
  rw [SelectLoop.wake_eq_attend]
  exact Iteration.stopFirst d _ _

namespace EpollLoop

-- The positions that these tokens stand for, where `count` pairs are watched.
def offered (count : Nat) (tokens : List UInt64) : List Nat :=
  tokens.filterMap fun t => if t ≠ stopToken ∧ t.toNat < count then some t.toNat else none

theorem position?_notice (count : Nat) (token : UInt64) :
    (notice count token).position? =
      if token ≠ stopToken ∧ token.toNat < count then some token.toNat else none := by
  grind [notice, position?]

theorem notice_eq_stop_iff (count : Nat) (token : UInt64) :
    notice count token = .stop ↔ token = stopToken := by
  grind [notice]

theorem notice_sound {count : Nat} {token : UInt64} :
    notice count token ≠ .deaf ∧ notice count token ≠ .garbled := by
  grind [notice]

theorem wake_iteration (tokens : List UInt64) (d : Duty) :
    Iteration d (offered d.watched.length tokens)
      (offered d.watched.length (tokens.takeWhile (· ≠ stopToken))) (stopToken ∈ tokens) False
      (wake tokens d) := by
  have hiteration := Iteration.ofEntries d (notice d.watched.length)
    (fun t => t = stopToken && d.acknowledge.1) tokens
    (fun _ _ => notice_sound.2) (fun t _ => by grind [notice, ends, Duty.acknowledge_fst])
  simp only [position?_notice, notice_eq_stop_iff, notice_sound.1, and_false, exists_false,
    exists_eq_right, ← wake_eq_attend] at hiteration
  refine hiteration.congr_ahead (fun hexit => ?_) ((List.takeWhile_prefix _).filterMap _)
  -- there is a stop request, so that its token ends the worker
  obtain ⟨-, hack⟩ := (hiteration.exits.mp hexit).resolve_right id
  simp only [hack, Bool.and_true, decide_not]
  rfl

end EpollLoop

namespace RingWorker

-- The positions whose requests have succeeded.
def offered (count : Nat) (answers : List (UInt64 × Int32)) : List Nat :=
  answers.filterMap fun a =>
    if a.1 ≠ stopToken ∧ a.1.toNat < count ∧ 0 ≤ a.2.toInt then some a.1.toNat else none

-- The answer ends the worker.
def isLast (d : Duty) (a : UInt64 × Int32) : Bool :=
  a.1 = stopToken && (0 ≤ a.2.toInt && d.acknowledge.1 || FailsForGood a.2)

theorem ne_minValue_of_nonneg {result : Int32} (h : 0 ≤ result.toInt) :
    result ≠ Int32.minValue := by
  rintro rfl
  exact absurd h (by decide)

theorem position?_notice (count : Nat) (token : UInt64) (result : Int32) :
    (notice count token result).position? =
      if token ≠ stopToken ∧ token.toNat < count ∧ 0 ≤ result.toInt then some token.toNat
      else none := by
  grind [notice, position?, ne_minValue_of_nonneg]

theorem notice_eq_stop_iff (count : Nat) (token : UInt64) (result : Int32) :
    notice count token result = .stop ↔ token = stopToken ∧ 0 ≤ result.toInt := by
  grind [notice, ne_minValue_of_nonneg]

theorem notice_eq_garbled_iff (count : Nat) (token : UInt64) (result : Int32) :
    notice count token result = .garbled ↔
      (token = stopToken ∨ token.toNat < count) ∧ result = Int32.minValue := by
  grind [notice]

theorem notice_eq_deaf_iff {count : Nat} {token : UInt64} {result : Int32}
    (hsound : notice count token result ≠ .garbled) :
    notice count token result = .deaf ↔ token = stopToken ∧ FailsForGood result := by
  have hneg : FailsForGood result → ¬ 0 ≤ result.toInt := fun h => Int.not_le.mpr h.1
  grind [notice]

theorem ends_notice {d : Duty} {count : Nat} {token : UInt64} {result : Int32}
    (hsound : notice count token result ≠ .garbled) :
    (notice count token result).ends d = isLast d (token, result) := by
  have hneg : FailsForGood result → ¬ 0 ≤ result.toInt := fun h => Int.not_le.mpr h.1
  grind [notice, ends, isLast, Duty.acknowledge_fst]

theorem wakeEach_iteration (w : RingWorker) (answers : List ((UInt64 × Int32) × Handover))
    (hsound : ∀ a ∈ answers.map Prod.fst, a.2 = Int32.minValue → w.numberOf? a.1 = none) :
    Iteration w.duty (offered w.duty.watched.length (answers.map Prod.fst))
      (offered w.duty.watched.length
        ((answers.map Prod.fst).takeWhile fun a => !isLast w.duty a))
      (∃ a ∈ answers.map Prod.fst, a.1 = stopToken ∧ 0 ≤ a.2.toInt)
      (∃ a ∈ answers.map Prod.fst, a.1 = stopToken ∧ FailsForGood a.2)
      ((w.wakeEach answers).1, (w.wakeEach answers).2.2.duty) := by
  have hnotice : ∀ a ∈ answers.map Prod.fst,
      notice w.duty.watched.length a.1 a.2 ≠ .garbled := by
    intro a ha hgarbled
    obtain ⟨hknown, hleast⟩ := (notice_eq_garbled_iff _ _ _).mp hgarbled
    exact (w.numberOf?_eq_none_iff a.1).mp (hsound a ha hleast) hknown
  have hiteration := Iteration.ofEntries w.duty
    (fun a : UInt64 × Int32 => notice w.duty.watched.length a.1 a.2) (isLast w.duty) _ hnotice
    fun a ha => ends_notice (hnotice a ha)
  have hlost : (∃ a ∈ answers.map Prod.fst, notice w.duty.watched.length a.1 a.2 = .deaf) =
      ∃ a ∈ answers.map Prod.fst, a.1 = stopToken ∧ FailsForGood a.2 :=
    propext (exists_congr fun a => and_congr_right fun ha => notice_eq_deaf_iff (hnotice a ha))
  simp only [position?_notice, notice_eq_stop_iff, hlost, ← wakeEach_eq_attend] at hiteration
  exact hiteration

end RingWorker

/-- An iteration with any of the four loops, whatever its wait has reported. A ring's answers are
event masks or negated error numbers, which the least 32-bit number is not. -/
theorem attentive_wake (d : Duty) (stop : PollSlot) (slots : List PollSlot)
    (readable : DescriptorSet) (stopNumber : Nat) (tokens : List UInt64) (w : RingWorker)
    (answers : List ((UInt64 × Int32) × Handover))
    (hanswers : ∀ a ∈ answers.map Prod.fst, a.2 = Int32.minValue → w.numberOf? a.1 = none) :
    Iteration d (flagged (slots.map PollSlot.isReadable)) [] (stop.isReadable = true) False
        (PollLoop.wake stop slots d) ∧
      Iteration d (flagged (d.watched.map (readable.contains ·.number))) []
        (readable.contains stopNumber = true) False (SelectLoop.wake readable stopNumber d) ∧
      (stop.isReadable = readable.contains stopNumber →
        slots.map PollSlot.isReadable = d.watched.map (readable.contains ·.number) →
        PollLoop.wake stop slots d = SelectLoop.wake readable stopNumber d) ∧
      Iteration d (EpollLoop.offered d.watched.length tokens)
        (EpollLoop.offered d.watched.length (tokens.takeWhile (· ≠ stopToken)))
        (stopToken ∈ tokens) False (EpollLoop.wake tokens d) ∧
      Iteration w.duty (RingWorker.offered w.duty.watched.length (answers.map Prod.fst))
        (RingWorker.offered w.duty.watched.length
          ((answers.map Prod.fst).takeWhile fun a => !RingWorker.isLast w.duty a))
        (∃ a ∈ answers.map Prod.fst, a.1 = stopToken ∧ 0 ≤ a.2.toInt)
        (∃ a ∈ answers.map Prod.fst, a.1 = stopToken ∧ RingWorker.FailsForGood a.2)
        ((w.wakeEach answers).1, (w.wakeEach answers).2.2.duty) ∧
      (∀ h reports, w.wake h reports = w.wakeEach (reports.map (·, h))) := by
  refine ⟨PollLoop.wake_iteration stop slots d, SelectLoop.wake_iteration readable stopNumber d, ?_,
    EpollLoop.wake_iteration tokens d, w.wakeEach_iteration answers hanswers, w.wake_eq_wakeEach⟩
  intro hstop hslots
  rw [PollLoop.wake_eq_attend, SelectLoop.wake_eq_attend, PollLoop.notices, SelectLoop.notices,
    hstop, hslots]

/-- One pair that is watched twice, with three bytes and a buffer for two: both slots echo. With
epoll the worker finds a stop request after one echo, and the ring's request for the stop counter
fails for good. -/
theorem attentive_wake_pair_twice :
    let watched : List Watched := [⟨0, 5⟩, ⟨0, 5⟩]
    let d : Duty := { watched, buffer := .zeroed 2, stop := ⟨1⟩,
                      sockets := #[{ requests := { waiting := [1, 2, 3] } }] }
    let slots := [PollSlot.report 5 true, PollSlot.report 5 true]
    let readable := DescriptorSet.ofList [5]
    let w : RingWorker := { ring := .watching readMask watched 9, stopNumber := 9, duty := d }
    let answers : List ((UInt64 × Int32) × Handover) :=
      [((7, Int32.minValue), .all), ((1, 1), .all), ((stopToken, -125), .all), ((0, 1), .all)]
    (∀ a ∈ answers.map Prod.fst, a.2 = Int32.minValue → w.numberOf? a.1 = none) ∧
      PollLoop.wake (.report 9 false) slots d = SelectLoop.wake readable 9 d ∧
      (SelectLoop.wake readable 9 d).2.sockets.toList.map
        (fun p => (p.requests.waiting, p.replies.waiting)) = [([], [1, 2, 3])] ∧
      (EpollLoop.wake [0, stopToken, 1] d).1 = .exit ∧
      (w.wakeEach answers).1 = .exit ∧
      (w.wakeEach answers).2.2.duty = d.echoAt 1 := by
  intro watched d slots readable w answers
  have hanswers : ∀ a ∈ answers.map Prod.fst, a.2 = Int32.minValue → w.numberOf? a.1 = none := by
    simp only [answers, List.map_cons, List.map_nil, List.forall_mem_cons]
    exact ⟨by decide, by decide, by decide, by decide, nofun⟩
  obtain ⟨-, hselect, halike, hepoll, hring, -⟩ :=
    attentive_wake d (.report 9 false) slots readable 9 [0, stopToken, 1] w answers hanswers
  have hgoes : (SelectLoop.wake readable 9 d).1 ≠ .exit := by
    intro hexit
    rcases hselect.exits.mp hexit with ⟨hasked, -⟩ | hlost
    · exact absurd hasked (by decide +kernel)
    · exact hlost
  have hexits : (w.wakeEach answers).1 = .exit :=
    hring.exits.mpr (Or.inr ⟨(stopToken, -125), by decide, rfl, by decide⟩)
  refine ⟨hanswers, halike (by decide +kernel) (by decide +kernel), ?_,
    hepoll.exits.mpr (Or.inl ⟨by decide, rfl⟩), hexits, ?_⟩
  · rw [hselect.goesOn hgoes]
    decide +kernel
  · refine ((hring.leaves hexits).resolve_left ?_).2
    -- the answer to the request for the stop counter is a failure
    rintro ⟨⟨a, ha, htoken, hsucceeded⟩, -⟩
    simp only [answers, List.map_cons, List.map_nil, List.mem_cons, List.not_mem_nil,
      or_false] at ha
    rcases ha with rfl | rfl | rfl | rfl
    · exact absurd htoken (by decide)
    · exact absurd htoken (by decide)
    · exact absurd hsucceeded (by decide)
    · exact absurd htoken (by decide)

/-- The least 32-bit number as the answer to a request that is known: the worker neither goes on
nor ends as one that was asked to. -/
theorem not_attentive_least_result :
    let watched : List Watched := [⟨0, 5⟩]
    let d : Duty := { watched, buffer := .zeroed 1, stop := {}, sockets := #[{}] }
    let w : RingWorker := { ring := .watching readMask watched 9, stopNumber := 9, duty := d }
    let answers : List ((UInt64 × Int32) × Handover) := [((0, Int32.minValue), .all)]
    ¬ Iteration w.duty (RingWorker.offered w.duty.watched.length (answers.map Prod.fst))
        (RingWorker.offered w.duty.watched.length
          ((answers.map Prod.fst).takeWhile fun a => !RingWorker.isLast w.duty a))
        (∃ a ∈ answers.map Prod.fst, a.1 = stopToken ∧ 0 ≤ a.2.toInt)
        (∃ a ∈ answers.map Prod.fst, a.1 = stopToken ∧ RingWorker.FailsForGood a.2)
        ((w.wakeEach answers).1, (w.wakeEach answers).2.2.duty) := by
  intro watched d w answers h
  have hcollapse : (w.wakeEach answers).1 = .collapse .negationOverflow := by decide
  have hverdict := congrArg Prod.fst (h.goesOn (by rw [hcollapse]; exact Verdict.noConfusion))
  rw [hcollapse] at hverdict
  cases hverdict

end ReadinessBench

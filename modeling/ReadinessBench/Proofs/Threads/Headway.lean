import ReadinessBench.Proofs.Threads.Standing

/-!
# How far it is to the end

Nobody has to be waited for in a round: a notice that does not come is not waited for long, and only
workers that have finished are joined. So a round is over when the owner has interrupted, looked at
and joined as many workers as were running, and once all workers have finished there is no more than
one round to come after it. A worker, too, comes to its end by steps of its own.
-/

namespace ReadinessBench

/-! ## The workers -/

namespace PairWorker

/-- How many steps of its own the worker is from its end once the flag is up. -/
def stepsLeft (k : PairWorker) : Nat :=
  match k.post with
  | .admitted => 5
  | .echoing => 4
  | .looking => 3
  | .leaving => 2
  | .noticed => 1
  | .finished => 0

theorem stepsLeft_le (k : PairWorker) : k.stepsLeft ≤ 5 := by
  unfold stepsLeft
  split <;> omega

theorem stepsLeft_eq_zero_iff {k : PairWorker} : k.stepsLeft = 0 ↔ k.post = .finished := by
  unfold stepsLeft
  cases k.post <;> simp

theorem stepsLeft_next (k : PairWorker) : (k.next true).stepsLeft = k.stepsLeft - 1 := by
  unfold next stepsLeft
  cases h : k.post <;> simp [h]

theorem stepsLeft_panic_le (k : PairWorker) : k.panic.stepsLeft ≤ k.stepsLeft := by
  unfold panic stepsLeft
  cases h : k.post <;> simp [h]

end PairWorker

namespace Disbanding

variable {s : Disbanding}

theorem stopped_run (h : s.stopped = true) (moves : List Move) : (s.run moves).stopped = true := by
  unfold run
  induction moves generalizing s with
  | nil => exact h
  | cons x rest ih =>
    apply ih
    cases x with
    | owner hears => exact s.stopped_act hears h
    | worker w =>
      unfold step
      dsimp only
      split <;> exact h
    | panic w =>
      unfold step
      dsimp only
      split <;> exact h

/-- With the flag up a worker comes nearer to its end with each step of its own, and nobody can make
it go back. -/
theorem stepsLeft_workers_run (h : s.stopped = true) {w : Nat} (hw : w < s.count)
    (moves : List Move) :
    ((s.run moves).workers w).stepsLeft ≤ (s.workers w).stepsLeft - moves.count (.worker w) := by
  induction moves generalizing s with
  | nil => exact Nat.le_refl _
  | cons x rest ih =>
    have hrest := ih (s := s.step x) (stopped_run h [x]) (by rw [count_step]; exact hw)
    have hstep : ((s.step x).workers w).stepsLeft ≤
        (s.workers w).stepsLeft - [x].count (.worker w) := by
      cases x with
      | owner hears =>
        show ((s.act hears).workers w).stepsLeft ≤ _
        rw [s.workers_act hears]
        exact Nat.le_refl _
      | worker v =>
        unfold step
        dsimp only
        by_cases hvw : v = w
        · subst hvw
          rw [if_pos hw, List.count_singleton_self, h]
          exact Nat.le_of_eq (congrArg PairWorker.stepsLeft (s.workers_setWorker v _) |>.trans
            (s.workers v).stepsLeft_next)
        · have hcount : [Move.worker v].count (.worker w) = 0 := by
            simp [hvw]
          rw [hcount]
          split
          · exact Nat.le_of_eq
              (congrArg PairWorker.stepsLeft (s.workers_setWorker_of_ne (Ne.symm hvw) _))
          · exact Nat.le_refl _
      | panic v =>
        unfold step
        dsimp only
        have hcount : [Move.panic v].count (.worker w) = 0 := by simp
        rw [hcount]
        split
        · by_cases hvw : v = w
          · subst hvw
            rw [s.workers_setWorker]
            exact (s.workers v).stepsLeft_panic_le
          · rw [s.workers_setWorker_of_ne (Ne.symm hvw)]
            exact Nat.le_refl _
        · exact Nat.le_refl _
    have hcount := count_cons_eq_add x (.worker w) rest
    show (((s.step x).run rest).workers w).stepsLeft ≤ _
    omega

/-! ## The owner -/

/-- How many steps a round with so many running workers takes. -/
def roundSteps (running : Nat) : Nat := if running = 0 then 0 else 3 * running + 5

/-- How many steps the owner is at most from the head of its loop, or from its end. -/
def toHead (s : Disbanding) : Nat :=
  match s.owner with
  | .holding => roundSteps s.group.running.length + 1
  | .turning => roundSteps s.group.running.length
  | .interrupting left => left.length + 2 * s.group.running.length + 4
  | .listening => 2 * s.group.running.length + 3
  | .sorting left finished _ => 2 * left.length + finished.length + 2
  | .joining _ left _ => left.length + 1
  | .ended => 0

/-- How many steps the owner is from its end if all workers have finished. Those that it has found
running in this round are left for the next one. -/
def toEnd (s : Disbanding) : Nat :=
  match s.owner with
  | .ended => 0
  | .sorting _ _ running | .joining _ _ running => s.toHead + roundSteps running.length + 1
  | .holding | .turning | .interrupting _ | .listening => s.toHead + 1

theorem owner_of_toEnd (h : s.toEnd = 0) : s.owner = .ended := by
  unfold toEnd at h
  split at h
  · assumption
  all_goals cases h

/-- The workers can change nothing about it. -/
theorem step_worker (s : Disbanding) {x : Move} (hx : ∀ hears, x ≠ .owner hears) :
    (s.step x).owner = s.owner ∧ (s.step x).group = s.group ∧ (s.step x).rounds = s.rounds := by
  cases x with
  | owner hears => exact absurd rfl (hx hears)
  | worker w =>
    unfold step
    dsimp only
    split <;> exact ⟨rfl, rfl, rfl⟩
  | panic w =>
    unfold step
    dsimp only
    split <;> exact ⟨rfl, rfl, rfl⟩

theorem toHead_step_worker (s : Disbanding) {x : Move} (hx : ∀ hears, x ≠ .owner hears) :
    (s.step x).toHead = s.toHead ∧ (s.step x).toEnd = s.toEnd := by
  obtain ⟨howner, hgroup, -⟩ := s.step_worker hx
  unfold toEnd toHead
  rw [howner, hgroup]
  exact ⟨rfl, rfl⟩

/-- What is over stays over. -/
theorem owner_run_of_ended (h : s.owner = .ended) (moves : List Move) :
    (s.run moves).owner = .ended := by
  unfold run
  induction moves generalizing s with
  | nil => exact h
  | cons x rest ih =>
    apply ih
    cases x with
    | owner hears =>
      show (s.act hears).owner = _
      unfold act
      rw [h]
      exact h
    | worker w => rw [(s.step_worker (x := .worker w) nofun).1, h]
    | panic w => rw [(s.step_worker (x := .panic w) nofun).1, h]

/-- The rounds that are over are not taken back. -/
theorem rounds_step (s : Disbanding) (x : Move) : s.rounds <+: (s.step x).rounds := by
  have hsame : ∀ {s' : Disbanding}, s'.rounds = s.rounds → s.rounds <+: s'.rounds :=
    fun h => h ▸ List.prefix_rfl
  cases x with
  | worker w => exact hsame (s.step_worker (x := .worker w) nofun).2.2
  | panic w => exact hsame (s.step_worker (x := .panic w) nofun).2.2
  | owner hears =>
    show _ <+: (s.act hears).rounds
    unfold act
    split
    · exact hsame rfl
    · unfold turn
      split <;> exact hsame rfl
    · unfold interrupt
      split <;> exact hsame rfl
    · unfold listen
      split <;> exact hsame rfl
    · unfold sort
      split
      · exact hsame rfl
      · split <;> exact hsame rfl
    · unfold join
      split
      · exact List.prefix_append _ _
      · split <;> exact hsame rfl
    · exact hsame rfl

theorem rounds_run (s : Disbanding) (moves : List Move) : s.rounds <+: (s.run moves).rounds := by
  unfold run
  induction moves generalizing s with
  | nil => exact List.prefix_rfl
  | cons x rest ih => exact (s.rounds_step x).trans (ih (s.step x))

/-- Nobody comes back. -/
theorem HasFinished.step {w : Nat} (h : s.HasFinished w) (x : Move) : (s.step x).HasFinished w := by
  have hset : ∀ (v : Nat) {k : PairWorker}, ((s.workers v).post = .finished → k = s.workers v) →
      (s.setWorker v k).HasFinished w := by
    intro v k hk
    show ((s.setWorker v k).workers w).post = _
    by_cases hvw : w = v
    · subst hvw
      rw [workers_setWorker, hk h]
      exact h
    · rw [workers_setWorker_of_ne hvw]
      exact h
  cases x with
  | owner hears =>
    show ((s.act hears).workers w).post = _
    rw [workers_act]
    exact h
  | worker v =>
    unfold Disbanding.step
    dsimp only
    split
    · exact hset v PairWorker.next_of_finished
    · exact h
  | panic v =>
    unfold Disbanding.step
    dsimp only
    split
    · exact hset v PairWorker.panic_of_finished
    · exact h

namespace Kept

/-- Within a round nobody is taken off those that were running at its beginning. -/
theorem running_eq (h : s.Kept) : s.group.running = s.atHead.running := by
  obtain ⟨part, -, hstands⟩ := h.stands
  unfold Stands at hstands
  split at hstands
  · rw [hstands.1]
  · rw [hstands.1]
  · obtain ⟨-, done, -, hgroup, -⟩ := hstands
    rw [hgroup]
  · rw [hstands.2.1]
    rfl
  · rw [hstands.2.1]
    rfl
  · rw [hstands.2.1]
    rfl
  · rw [hstands.2.1]

theorem lt_of_mem_running (h : s.Kept) {w : Nat} (hw : w ∈ s.group.running) : w < s.count := by
  rw [h.running_eq] at hw
  exact List.mem_range.mp
    ((ThreadGroup.wind_ofSize_perm s.count _).subset (List.mem_append_right _ hw))

theorem length_running_le (h : s.Kept) : s.group.running.length ≤ s.count := by
  have hlength :=
    (ThreadGroup.wind_ofSize_perm s.count (s.rounds.map GroupRound.finished)).length_eq
  rw [List.length_append, List.length_range] at hlength
  rw [h.running_eq, atHead]
  omega

theorem interrupting (h : s.Kept) {left : List Nat} (howner : s.owner = .interrupting left) :
    left.length ≤ s.group.running.length := by
  obtain ⟨part, -, hstands⟩ := h.stands
  unfold Stands at hstands
  rw [howner] at hstands
  obtain ⟨-, done, hsplit, -, -⟩ := hstands
  rw [h.running_eq, hsplit, List.length_append]
  exact Nat.le_add_left _ _

/-- While the workers are looked at, each of them is in one of three places. -/
theorem sorting (h : s.Kept) {left finished running : List Nat}
    (howner : s.owner = .sorting left finished running) :
    left.length + finished.length + running.length = s.group.running.length ∧
      ∀ w ∈ left, w < s.count := by
  obtain ⟨part, -, hstands⟩ := h.stands
  unfold Stands at hstands
  rw [howner] at hstands
  obtain ⟨-, -, -, -, done, p, hsplit, rfl, rfl⟩ := hstands
  have hrunning : s.group.running = done ++ left := h.running_eq.trans hsplit
  have hdone := List.length_eq_length_filter_add (l := done) p
  refine ⟨?_, fun w hw => h.lt_of_mem_running (hrunning ▸ List.mem_append_right done hw)⟩
  rw [hrunning, List.length_append]
  omega

/-- While the workers are joined, too. -/
theorem joining (h : s.Kept) {joined left running : List Nat}
    (howner : s.owner = .joining joined left running) :
    joined.length + left.length + running.length = s.group.running.length ∧
      ∀ w ∈ left, s.HasFinished w := by
  obtain ⟨part, -, hstands⟩ := h.stands
  unfold Stands at hstands
  rw [howner] at hstands
  obtain ⟨-, -, -, hall, p, hsplit, rfl⟩ := hstands
  have hlength := List.length_eq_length_filter_add (l := s.atHead.running) p
  rw [hsplit, List.length_append] at hlength
  exact ⟨hlength.symm.trans (congrArg List.length h.running_eq.symm),
    fun w hw => hall w (List.mem_append_right joined hw)⟩

/-- From anywhere it is no more than two rounds. -/
theorem toEnd_le (h : s.Kept) : s.toHead ≤ 3 * s.count + 6 ∧ s.toEnd ≤ 3 * s.count + 8 := by
  have hrunning := h.length_running_le
  have hround : ∀ k, roundSteps k ≤ 3 * k + 5 := by
    intro k
    unfold roundSteps
    split <;> omega
  have hall := hround s.group.running.length
  unfold toEnd toHead
  cases howner : s.owner with
  | holding | turning | listening | ended => dsimp only; omega
  | interrupting left =>
    have hleft := h.interrupting howner
    dsimp only
    omega
  | sorting left finished running =>
    have hparts := (h.sorting howner).1
    have hrest := hround running.length
    dsimp only
    omega
  | joining joined left running =>
    have hparts := (h.joining howner).1
    have hrest := hround running.length
    dsimp only
    omega

/-- With each step the owner comes nearer to the head of its loop, or it is there. And if all
workers have finished, it comes nearer to its end. -/
theorem headway_act (h : s.Kept) (hears : Bool) :
    (s.act hears).owner = .ended ∨
      (s.rounds.length < (s.act hears).rounds.length ∨
        (s.act hears).toHead + (if hears then 0 else 1) ≤ s.toHead) ∧
      ((∀ w < s.count, s.HasFinished w) →
        (s.act hears).toEnd + (if hears then 0 else 1) ≤ s.toEnd) := by
  have hone : (if hears then 0 else 1) ≤ 1 := by split <;> omega
  cases howner : s.owner with
  | holding =>
    right
    simp only [Disbanding.act, toHead, toEnd, howner]
    omega
  | turning =>
    simp only [Disbanding.act, Disbanding.turn, toHead, toEnd, howner]
    split
    · exact Or.inl rfl
    · rename_i hne
      have hround : roundSteps s.group.running.length = 3 * s.group.running.length + 5 :=
        if_neg fun hnil => hne (List.isEmpty_iff.mpr (List.eq_nil_of_length_eq_zero hnil))
      right
      dsimp only
      omega
  | interrupting left =>
    right
    cases left with
    | nil =>
      simp only [Disbanding.act, Disbanding.interrupt, toHead, toEnd, howner, List.length_nil]
      omega
    | cons w rest =>
      simp only [Disbanding.act, Disbanding.interrupt, toHead, toEnd, howner, List.length_cons]
      omega
  | listening =>
    right
    simp only [Disbanding.act, Disbanding.listen, howner]
    split
    -- there is no notice to hear, and the owner still waits for one
    · rename_i hnone
      have hears : hears = true := (Bool.and_eq_true_iff.mp hnone).1
      rw [if_pos hears]
      exact ⟨Or.inr (Nat.le_refl _), fun _ => Nat.le_refl _⟩
    · have hround : roundSteps ([] : List Nat).length = 0 := rfl
      simp only [toHead, toEnd, howner, List.length_nil] at hround ⊢
      omega
  | sorting left finished running =>
    right
    cases left with
    | nil =>
      simp only [Disbanding.act, Disbanding.sort, toHead, toEnd, howner, List.length_nil]
      omega
    | cons w rest =>
      have hw := (h.sorting howner).2 w List.mem_cons_self
      simp only [Disbanding.act, Disbanding.sort, toHead, toEnd, howner, List.length_cons]
      split
      · simp only [List.length_append, List.length_singleton]
        omega
      · rename_i hpost
        refine ⟨Or.inr ?_, fun hall => absurd (hall w hw) hpost⟩
        dsimp only
        omega
  | joining joined left running =>
    right
    cases left with
    | nil =>
      simp only [Disbanding.act, Disbanding.join, toHead, toEnd, howner, List.length_nil,
        List.length_append, List.length_singleton]
      omega
    | cons w rest =>
      have hw : (s.workers w).post = .finished := (h.joining howner).2 w List.mem_cons_self
      simp only [Disbanding.act, Disbanding.join, hw, toHead, toEnd, howner, List.length_cons,
        if_true]
      omega
  | ended =>
    left
    simp only [Disbanding.act, howner]

theorem headway_step (h : s.Kept) (x : Move) :
    (s.step x).owner = .ended ∨
      (s.rounds.length < (s.step x).rounds.length ∨
        (s.step x).toHead + [x].count (.owner false) ≤ s.toHead) ∧
      ((∀ w < s.count, s.HasFinished w) →
        (s.step x).toEnd + [x].count (.owner false) ≤ s.toEnd) := by
  cases x with
  | owner hears =>
    have hcount : [Move.owner hears].count (.owner false) = if hears then 0 else 1 := by
      cases hears <;> rfl
    rw [hcount]
    exact h.headway_act hears
  | worker w =>
    obtain ⟨hhead, hend⟩ := s.toHead_step_worker (x := .worker w) nofun
    rw [hhead, hend]
    exact Or.inr ⟨Or.inr (Nat.le_refl _), fun _ => Nat.le_refl _⟩
  | panic w =>
    obtain ⟨hhead, hend⟩ := s.toHead_step_worker (x := .panic w) nofun
    rw [hhead, hend]
    exact Or.inr ⟨Or.inr (Nat.le_refl _), fun _ => Nat.le_refl _⟩

/-- Unless the loop has ended by then, another round is over after so many steps of the owner. -/
theorem goesOn (h : s.Kept) {more : List Move} (hmany : s.toHead < more.count (.owner false)) :
    (s.run more).owner = .ended ∨ s.rounds.length < (s.run more).rounds.length := by
  induction more generalizing s with
  | nil => cases hmany
  | cons x rest ih =>
    have hcount := count_cons_eq_add x (.owner false) rest
    have hbefore := (s.rounds_step x).length_le
    have hafter := ((s.step x).rounds_run rest).length_le
    show ((s.step x).run rest).owner = _ ∨ _ < ((s.step x).run rest).rounds.length
    rcases h.headway_step x with hended | ⟨hround | hless, -⟩
    · exact Or.inl (owner_run_of_ended hended rest)
    · exact Or.inr (Nat.lt_of_lt_of_le hround hafter)
    · exact (ih (h.step x) (by omega)).imp id (Nat.lt_of_le_of_lt hbefore)

/-- When all workers have finished, the owner needs no more than so many steps. -/
theorem ends (h : s.Kept) (hall : ∀ w < s.count, s.HasFinished w) {more : List Move}
    (hmany : s.toEnd ≤ more.count (.owner false)) : (s.run more).owner = .ended := by
  induction more generalizing s with
  | nil => exact owner_of_toEnd (Nat.le_zero.mp hmany)
  | cons x rest ih =>
    have hcount := count_cons_eq_add x (.owner false) rest
    have hfinished : ∀ w < (s.step x).count, (s.step x).HasFinished w := by
      intro w hw
      rw [s.count_step] at hw
      exact (hall w hw).step x
    show ((s.step x).run rest).owner = _
    rcases h.headway_step x with hended | ⟨-, hless⟩
    · exact owner_run_of_ended hended rest
    · have := hless hall
      exact ih (h.step x) hfinished (by omega)

end Kept

end Disbanding

end ReadinessBench

import Mathlib.Data.List.Induction
import ReadinessBench.Proofs.Lists
import ReadinessBench.Watch.StopCounter

/-!
# What a stop counter remembers

Nobody sees how far a stop counter has counted, only whether there is anything to take. So it says
of its past whether somebody has asked to stop since the last request was taken, and no more, and a
counter that is full says it as well as any other. Main statement: `remembered_run`.
-/

namespace ReadinessBench

namespace StopCounter

variable {s t : StopCounter}

theorem isReadable_raise (s : StopCounter) : s.raise.isReadable = true := by
  have hlimit : 0 < limit := by decide
  unfold raise
  split
  · exact decide_eq_true (Nat.succ_pos s.count)
  · have hcount : 0 < s.count := by omega
    exact decide_eq_true hcount

theorem acknowledge_eq (s : StopCounter) : s.acknowledge = (s.isReadable, {}) := by
  obtain ⟨count⟩ := s
  cases count with
  | zero => rfl
  | succ count => exact if_pos (Nat.succ_pos count)

/-! ## Two counters that look alike -/

/-- The counter after these steps. -/
def after (s : StopCounter) (steps : List Step) : StopCounter :=
  steps.foldl (fun s x => (s.step x).2) s

theorem answers_append (s : StopCounter) (steps rest : List Step) :
    s.answers (steps ++ rest) = s.answers steps ++ (s.after steps).answers rest := by
  induction steps generalizing s with
  | nil => rfl
  | cons x steps ih =>
    show _ :: (s.step x).2.answers (steps ++ rest) = _
    rw [ih]
    rfl

/-- Whether the descriptor is readable is all that a counter shows. -/
theorem answers_congr (h : s.isReadable = t.isReadable) (steps : List Step) :
    s.answers steps = t.answers steps := by
  induction steps generalizing s t with
  | nil => rfl
  | cons x steps ih =>
    cases x with
    | raise =>
      have hraised : s.raise.isReadable = t.raise.isReadable := by
        rw [isReadable_raise, isReadable_raise]
      show (_, s.raise.isReadable) :: s.raise.answers steps = (_, t.raise.isReadable) :: _
      rw [hraised, ih hraised]
    -- whatever was counted, nothing is left
    | acknowledge =>
      simp only [answers, step, acknowledge_eq, h]
    | check =>
      show (_, s.isReadable) :: s.answers steps = (_, t.isReadable) :: t.answers steps
      rw [h, ih h]

theorem answers_replicate_raise (s : StopCounter) (n : Nat) :
    s.answers (List.replicate n .raise) = List.replicate n (none, true) := by
  induction n generalizing s with
  | zero => rfl
  | succ n ih =>
    show (none, s.raise.isReadable) :: s.raise.answers (List.replicate n .raise) = _
    rw [isReadable_raise, ih]
    rfl

theorem isReadable_after_raises (s : StopCounter) (n : Nat) :
    (s.after (List.replicate (n + 1) .raise)).isReadable = true := by
  induction n generalizing s with
  | zero => exact s.isReadable_raise
  | succ n ih => exact ih s.raise

/-! ## What has been asked and what has been found -/

/-- A step and what came of it. -/
structure Entry where
  step : Step
  /-- Whether an acknowledgement found a request; nothing for other steps. -/
  found : Option Bool
  /-- The descriptor is readable after the step. -/
  readable : Bool
  deriving DecidableEq, Repr

/-- The steps, each with its answer. -/
def history (s : StopCounter) (steps : List Step) : List Entry :=
  (steps.zip (s.answers steps)).map fun x => ⟨x.1, x.2.1, x.2.2⟩

def entry (s : StopCounter) (x : Step) : Entry := ⟨x, (s.step x).1, (s.step x).2.isReadable⟩

/-- Somebody has asked to stop, and no acknowledgement has found a request since. -/
def Standing (past : List Entry) : Prop :=
  ∃ before e later, past = before ++ e :: later ∧ e.step = .raise ∧
    ∀ x ∈ later, x.step = .acknowledge → x.found ≠ some true

/-- Every entry tells the truth about what came before it. -/
structure Truthful (past : List Entry) : Prop where
  readable : ∀ before e later, past = before ++ e :: later →
    (e.readable = true ↔ Standing (before ++ [e]))
  found : ∀ before e later, past = before ++ e :: later → e.step = .acknowledge →
    ∃ b, e.found = some b ∧ (b = true ↔ Standing before)

theorem length_answers (s : StopCounter) (steps : List Step) :
    (s.answers steps).length = steps.length := by
  induction steps generalizing s with
  | nil => rfl
  | cons x steps ih =>
    show ((s.step x).2.answers steps).length + 1 = steps.length + 1
    rw [ih]

theorem map_step_history (s : StopCounter) (steps : List Step) :
    (s.history steps).map Entry.step = steps := by
  rw [history, List.map_map]
  exact List.map_fst_zip (Nat.le_of_eq (s.length_answers steps).symm)

theorem history_concat (s : StopCounter) (steps : List Step) (x : Step) :
    s.history (steps ++ [x]) = s.history steps ++ [(s.after steps).entry x] := by
  rw [history, answers_append, List.zip_append (s.length_answers steps).symm, List.map_append]
  rfl

theorem standing_concat {past : List Entry} {e : Entry} :
    Standing (past ++ [e]) ↔
      e.step = .raise ∨ Standing past ∧ ¬ (e.step = .acknowledge ∧ e.found = some true) := by
  constructor
  · rintro ⟨before, x, later, hsplit, hraise, hlater⟩
    rcases snoc_eq_append_cons hsplit with ⟨-, rfl⟩ | ⟨rest, rfl⟩
    · exact Or.inl hraise
    -- the request is an older one, and the new entry is among those after it
    · have hlast : later = rest ++ [e] := by
        simpa using hsplit.symm
      subst hlast
      refine Or.inr ⟨⟨before, x, rest, rfl, hraise, fun y hy => hlater y (by simp [hy])⟩, ?_⟩
      rintro ⟨hacknowledge, hfound⟩
      exact hlater e (by simp) hacknowledge hfound
  · rintro (hraise | ⟨⟨before, x, later, rfl, hraise, hlater⟩, hkept⟩)
    · exact ⟨past, e, [], rfl, hraise, by simp⟩
    · refine ⟨before, x, later ++ [e], by simp, hraise, ?_⟩
      intro y hy hacknowledge hfound
      rcases List.mem_append.mp hy with hy | hy
      · exact hlater y hy hacknowledge hfound
      · rw [List.mem_singleton.mp hy] at hacknowledge hfound
        exact hkept ⟨hacknowledge, hfound⟩

/-! ## A step and a run -/

/-- The counter is readable if and only if there is a request in its past. -/
structure Remembers (s : StopCounter) (past : List Entry) : Prop where
  standing : s.isReadable = true ↔ Standing past
  truthful : Truthful past
  within : s.count ≤ limit

theorem Remembers.start : Remembers {} [] := by
  refine ⟨?_, ⟨?_, ?_⟩, Nat.zero_le limit⟩
  · simp [isReadable, Standing]
  · simp
  · simp

theorem count_step (h : s.count ≤ limit) (x : Step) : (s.step x).2.count ≤ limit := by
  cases x with
  | raise =>
    show s.raise.count ≤ limit
    unfold raise
    split
    · assumption
    · exact h
  | acknowledge =>
    show s.acknowledge.2.count ≤ limit
    rw [acknowledge_eq]
    exact Nat.zero_le limit
  | check => exact h

theorem Remembers.standing_step {past : List Entry} (h : Remembers s past) (x : Step) :
    (s.step x).2.isReadable = true ↔ Standing (past ++ [s.entry x]) := by
  rw [standing_concat]
  cases x with
  | raise =>
    show s.raise.isReadable = true ↔ _
    simp [entry, isReadable_raise]
  -- it finds something just when there is something to forget
  | acknowledge =>
    show s.acknowledge.2.isReadable = true ↔ _
    simp only [entry, step, acknowledge_eq, ← h.standing]
    cases s.isReadable <;> simp [isReadable]
  | check =>
    show s.isReadable = true ↔ _
    simp [entry, h.standing]

theorem Remembers.step {past : List Entry} (h : Remembers s past) (x : Step) :
    Remembers (s.step x).2 (past ++ [s.entry x]) := by
  have hstanding := h.standing_step x
  refine ⟨hstanding, ⟨?_, ?_⟩, count_step h.within x⟩
  · intro before e later hsplit
    rcases snoc_eq_append_cons hsplit with ⟨rfl, rfl⟩ | ⟨rest, hrest⟩
    · exact hstanding
    · exact h.truthful.readable before e rest hrest
  · intro before e later hsplit hacknowledge
    rcases snoc_eq_append_cons hsplit with ⟨rfl, rfl⟩ | ⟨rest, hrest⟩
    · obtain rfl : x = .acknowledge := hacknowledge
      refine ⟨s.isReadable, ?_, h.standing⟩
      simp only [entry, StopCounter.step, acknowledge_eq]
    · exact h.truthful.found before e rest hrest hacknowledge

theorem remembers_run (steps : List Step) : Remembers (after {} steps) (history {} steps) := by
  induction steps using List.reverseRecOn with
  | nil => exact Remembers.start
  | append_singleton steps x ih =>
    rw [history_concat, after, List.foldl_append]
    exact ih.step x

/-- **A stop request stands until it is taken.** Requests, acknowledgements and looks come in any
order and number, also when the counter is full. A look can be left out, and any number of requests
in a row is as good as one. -/
theorem remembered_run (steps rest : List Step) (n : Nat) :
    ((history {} steps).map Entry.step = steps ∧ Truthful (history {} steps) ∧
      (after {} steps).count ≤ limit) ∧
    (∃ readable later,
      answers {} (steps ++ .check :: rest) = answers {} steps ++ (none, readable) :: later ∧
      answers {} (steps ++ rest) = answers {} steps ++ later) ∧
    ∃ later,
      answers {} (steps ++ List.replicate (n + 1) .raise ++ rest) =
        answers {} steps ++ List.replicate (n + 1) (none, true) ++ later ∧
      answers {} (steps ++ .raise :: rest) = answers {} steps ++ (none, true) :: later := by
  have hrun := remembers_run steps
  generalize hs : after {} steps = s at hrun ⊢
  refine ⟨⟨map_step_history {} steps, hrun.truthful, hrun.within⟩, ?_, ?_⟩
  · refine ⟨s.isReadable, s.answers rest, ?_, ?_⟩
    · rw [answers_append, hs]
      rfl
    · rw [answers_append, hs]
  -- the counts differ, but both counters are readable
  · have hsame : (s.after (List.replicate (n + 1) .raise)).isReadable = s.raise.isReadable := by
      rw [isReadable_after_raises, isReadable_raise]
    refine ⟨s.raise.answers rest, ?_, ?_⟩
    · rw [List.append_assoc, answers_append, hs, answers_append, answers_replicate_raise,
        answers_congr hsame, List.append_assoc]
    · rw [answers_append, hs]
      show _ ++ (none, s.raise.isReadable) :: s.raise.answers rest = _
      rw [isReadable_raise]

end StopCounter

end ReadinessBench

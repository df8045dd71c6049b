import ReadinessBench.Proofs.Deadline.Armed
import ReadinessBench.Proofs.Lists

/-!
# A deadline that has been disarmed is over

Whenever the owner closes the timer, also between the end of the timer's wait and what the timer
does then: it cancels the token only if the time was up first, it interrupts only what it has
cancelled and goes on with it until it is closed, and when the owner has waited for it, nothing of
it is left. Main statement: `disciplined_run`.
-/

namespace ReadinessBench

namespace Deadline

variable {s s' : Deadline} {x : Happening} {history before after : List Happening}

/-- What must have happened before. -/
def Warranted (before : List Happening) : Happening → Prop
  | .expired | .paused => .closed ∉ before ∧ .finished ∉ before
  | .cancelled => .expired ∈ before ∧ .finished ∉ before
  | .interrupted => .cancelled ∈ before ∧ .finished ∉ before
  | .finished => .closed ∈ before ∧ .finished ∉ before
  | .closed => .closed ∉ before
  | .released => .finished ∈ before ∧ .released ∉ before
  | .stopped => True

/-- Everything has been warranted by what had happened until then. -/
def Orderly (history : List Happening) : Prop :=
  ∀ before x after, history = before ++ x :: after → Warranted before x

theorem Orderly.note (h : Orderly history) (hx : Warranted history x) :
    Orderly (history ++ [x]) := by
  intro before y after hsplit
  rcases snoc_eq_append_cons hsplit with ⟨rfl, rfl⟩ | ⟨rest, hrest⟩
  · exact hx
  · exact h before y rest hrest

/-- How many interruptions the timer may still send without another pause. -/
def owed : TimerPhase → Nat
  | .expired | .alarming => 1
  | .counting | .pausing | .finished => 0

/-- After the timer has been closed no more than one interruption has been sent or is to come. -/
def Spent (owing : Nat) (history : List Happening) : Prop :=
  ∀ before after, history = before ++ .closed :: after → after.count .interrupted + owing ≤ 1

theorem Spent.note {owing owing' : Nat} (h : Spent owing history) (hx : x ≠ .closed)
    (howing : .closed ∈ history → (if x = .interrupted then 1 else 0) + owing' ≤ owing) :
    Spent owing' (history ++ [x]) := by
  intro before after hsplit
  rcases snoc_eq_append_cons hsplit with ⟨-, rfl⟩ | ⟨rest, rfl⟩
  · exact absurd rfl hx
  · have hafter : after = rest ++ [x] := by
      rw [List.append_assoc, List.cons_append, List.append_cancel_left_eq,
        List.cons.injEq] at hsplit
      exact hsplit.2.symm
    have hcount : after.count .interrupted =
        rest.count .interrupted + if x = .interrupted then 1 else 0 := by
      rw [hafter, List.count_append, List.count_singleton]
      simp only [beq_iff_eq]
    have hbefore := h before rest rfl
    have hmore := howing (by simp)
    omega

/-- Nothing has happened since. -/
theorem Spent.close {owing : Nat} (howing : owing ≤ 1) (hopen : .closed ∉ history) :
    Spent owing (history ++ [.closed]) := by
  intro before after hsplit
  rcases after.eq_nil_or_concat' with rfl | ⟨rest, y, rfl⟩
  · simpa using howing
  · have hassoc : history ++ [.closed] = (before ++ .closed :: rest) ++ [y] := by
      rw [hsplit, List.append_assoc, List.cons_append]
    have hhistory := (List.append_inj' hassoc rfl).1
    exact absurd (by simp [hhistory]) hopen

theorem owed_le (phase : TimerPhase) : owed phase ≤ 1 := by
  cases phase <;> simp [owed]

/-- What has happened fits the phase of the timer. -/
structure Placed (phase : TimerPhase) (history : List Happening) : Prop where
  expired : phase = .expired → .expired ∈ history
  cancelled : phase = .alarming ∨ phase = .pausing → .cancelled ∈ history
  alarmed : .cancelled ∈ history → phase = .alarming ∨ phase = .pausing ∨ phase = .finished
  finished : .finished ∈ history ↔ phase = .finished
  due : .expired ∈ history → phase = .expired ∨ .cancelled ∈ history

theorem Placed.note {phase : TimerPhase} (h : Placed phase history) (hx : x.isTimers = false) :
    Placed phase (history ++ [x]) := by
  have hsame (y : Happening) (hy : y.isTimers = true) : y ∈ history ++ [x] ↔ y ∈ history := by
    rw [List.mem_append, List.mem_singleton, or_iff_left]
    rintro rfl
    rw [hx] at hy
    cases hy
  exact ⟨by rw [hsame _ rfl]; exact h.expired, by rw [hsame _ rfl]; exact h.cancelled,
    by rw [hsame _ rfl]; exact h.alarmed, by rw [hsame _ rfl]; exact h.finished,
    by rw [hsame _ rfl, hsame _ rfl]; exact h.due⟩

theorem Placed.turn {t : Timer} {phase : TimerPhase} (h : Placed t.phase history)
    (hturn : t.Turns x phase) : Placed phase (history ++ [x]) := by
  -- a timer that has finished takes no turn
  have hunfinished : .finished ∉ history := fun hmem => by
    have hphase := h.finished.1 hmem
    rcases hturn with h | h | h | h | h | h <;> simp [hphase] at h
  cases hturn with
  | expire hphase _ =>
    have huncancelled : .cancelled ∉ history := fun hmem => by simpa [hphase] using h.alarmed hmem
    exact ⟨by simp, by simp, by simp [huncancelled], by simp [hunfinished], by simp⟩
  | cancel => exact ⟨by simp, by simp, by simp, by simp [hunfinished], by simp⟩
  | interrupt hphase =>
    have hcancelled := h.cancelled (Or.inl hphase)
    exact ⟨by simp, by simp [hcancelled], by simp, by simp [hunfinished], by simp [hcancelled]⟩
  | pause hphase =>
    have hcancelled := h.cancelled (Or.inr hphase)
    exact ⟨by simp, by simp [hcancelled], by simp, by simp [hunfinished], by simp [hcancelled]⟩
  | finish hphase =>
    have hdue : .expired ∈ history → .cancelled ∈ history := fun hmem => by
      rcases hphase with hphase | hphase
      · exact (h.due hmem).resolve_left (by simp [hphase])
      · exact h.cancelled (Or.inr hphase)
    exact ⟨by simp, by simp, by simp, by simp, by simpa using hdue⟩

/-- What has happened fits where the timer and its owner stand. -/
structure Sound (s : Deadline) : Prop where
  orderly : Orderly s.history
  spent : Spent (owed s.timer.phase) s.history
  placed : Placed s.timer.phase s.history
  closed : .closed ∈ s.history ↔ s.timer.closed = true
  holder : s.timer.closed = true ↔ s.holder = .waiting ∨ s.holder = .released
  released : .released ∈ s.history ↔ s.holder = .released
  unset : s.holder = .unset → s.timer.phase = .counting
  ended : s.holder = .released → s.timer.phase = .finished
  token : s.cancelled = true ↔ .cancelled ∈ s.history ∨ .stopped ∈ s.history

namespace Sound

theorem start : Sound {} := by
  constructor
  case placed => exact ⟨by simp, by simp, by simp, by simp, by simp⟩
  all_goals simp [Orderly, Spent]

theorem warranted (h : Sound s) {phase : TimerPhase} (hturn : s.timer.Turns x phase) :
    Warranted s.history x := by
  have hunfinished (hphase : s.timer.phase ≠ .finished) : .finished ∉ s.history :=
    fun hmem => hphase (h.placed.finished.1 hmem)
  have hunclosed (hopen : s.timer.closed = false) : .closed ∉ s.history := fun hmem => by
    simp [h.closed.1 hmem] at hopen
  cases hturn with
  | expire hphase hopen => exact ⟨hunclosed hopen, hunfinished (by simp [hphase])⟩
  | cancel hphase => exact ⟨h.placed.expired hphase, hunfinished (by simp [hphase])⟩
  | interrupt hphase =>
    exact ⟨h.placed.cancelled (Or.inl hphase), hunfinished (by simp [hphase])⟩
  | pause hphase hopen => exact ⟨hunclosed hopen, hunfinished (by simp [hphase])⟩
  | finish hphase hclosed =>
    refine ⟨h.closed.2 hclosed, hunfinished ?_⟩
    rcases hphase with hphase | hphase <;> simp [hphase]

/-- A closed timer sends no interruption that it did not owe. -/
theorem owed_turn (h : Sound s) {phase : TimerPhase} (hturn : s.timer.Turns x phase)
    (hmem : .closed ∈ s.history) :
    (if x = .interrupted then 1 else 0) + owed phase ≤ owed s.timer.phase := by
  have hclosed := h.closed.1 hmem
  cases hturn with
  | expire hphase hopen => simp [hclosed] at hopen
  | cancel hphase => simp [hphase, owed]
  | interrupt hphase => simp [hphase, owed]
  | pause hphase hopen => simp [hclosed] at hopen
  | finish hphase hclosed => simp [owed]

theorem turn (h : Sound s) {phase : TimerPhase} (hset : s.holder ≠ .unset)
    (hturn : s.timer.Turns x phase) :
    Sound ({ s with
      timer := { s.timer with phase }
      cancelled := s.cancelled || x = Happening.cancelled }.note x) := by
  -- what is the owner's or somebody else's to do, the timer does not do
  have hx : x ≠ .closed ∧ x ≠ .released ∧ x ≠ .stopped := by cases hturn <;> simp
  have hrunning : s.timer.phase ≠ .finished := by
    rcases hturn with h | h | h | h | h | h <;> simp [h]
  constructor
  case orderly => exact h.orderly.note (h.warranted hturn)
  case spent => exact h.spent.note hx.1 (h.owed_turn hturn)
  case placed => exact h.placed.turn hturn
  case closed => simpa [note, hx.1.symm] using h.closed
  case holder => exact h.holder
  case released => simpa [note, hx.2.1.symm] using h.released
  case unset => exact fun hunset => absurd hunset hset
  case ended => exact fun hreleased => absurd (h.ended hreleased) hrunning
  case token =>
    have hstopped : .stopped ∈ s.history ++ [x] ↔ .stopped ∈ s.history := by simp [hx.2.2.symm]
    simp only [note, hstopped, Bool.or_eq_true, h.token, decide_eq_true_eq, List.mem_append,
      List.mem_singleton, eq_comm (a := x)]
    exact or_right_comm

theorem close (h : Sound s) (hholding : s.holder = .holding) :
    Sound ({ s with holder := .waiting, timer := s.timer.close }.note .closed) := by
  have hopen : .closed ∉ s.history := fun hmem => by
    simpa [hholding] using h.holder.1 (h.closed.1 hmem)
  constructor
  case orderly => exact h.orderly.note hopen
  case spent => exact .close (owed_le _) hopen
  case placed => exact h.placed.note rfl
  case closed => simp [note, Timer.close]
  case holder => simp [note, Timer.close]
  case released => simpa [note, hholding] using h.released
  case unset => nofun
  case ended => nofun
  case token => simpa [note] using h.token

theorem release (h : Sound s) (hwaiting : s.holder = .waiting)
    (hfinished : s.timer.phase = .finished) :
    Sound ({ s with holder := .released }.note .released) := by
  have hunreleased : .released ∉ s.history := fun hmem => by
    simpa [hwaiting] using h.released.1 hmem
  constructor
  case orderly => exact h.orderly.note ⟨h.placed.finished.2 hfinished, hunreleased⟩
  case spent => exact h.spent.note nofun fun _ => by simp [note]
  case placed => exact h.placed.note rfl
  case closed => simpa [note] using h.closed
  case holder => simpa [note, hwaiting] using h.holder
  case released => simp [note]
  case unset => nofun
  case ended => exact fun _ => hfinished
  case token => simpa [note] using h.token

theorem stop (h : Sound s) : Sound ({ s with cancelled := true }.note .stopped) := by
  constructor
  case orderly => exact h.orderly.note trivial
  case spent => exact h.spent.note nofun fun _ => by simp [note]
  case placed => exact h.placed.note rfl
  case closed => simpa [note] using h.closed
  case holder => exact h.holder
  case released => simpa [note] using h.released
  case unset => exact h.unset
  case ended => exact h.ended
  case token => simp [note]

theorem arm (h : Sound s) (hunset : s.holder = .unset) :
    Sound { s with holder := .holding } where
  orderly := h.orderly
  spent := h.spent
  placed := h.placed
  closed := h.closed
  holder := by simpa [hunset] using h.holder
  released := by simpa [hunset] using h.released
  unset := nofun
  ended := nofun
  token := h.token

theorem step (h : Sound s) (x : Move) : Sound (s.step x) := by
  have hsteps := s.steps_step x
  generalize s.step x = s' at hsteps ⊢
  cases hsteps with
  | idle => exact h
  | arm hunset => exact h.arm hunset
  | turn hset hturn => exact h.turn hset hturn
  | close hholding => exact h.close hholding
  | release hwaiting hfinished => exact h.release hwaiting hfinished
  | stop => exact h.stop

theorem run (h : Sound s) (moves : List Move) : Sound (s.run moves) := by
  induction moves generalizing s with
  | nil => exact h
  | cons x rest ih => exact ih (h.step x)

end Sound

/-! ## What follows from the order -/

namespace Orderly

variable (h : Orderly history)
include h

theorem of_append {rest : List Happening} (hsplit : history = before ++ rest) : Orderly before :=
  fun earlier x later hbefore => h earlier x (later ++ rest) (by simp [hsplit, hbefore])

theorem expired_of_cancelled (hsplit : history = before ++ .cancelled :: after) :
    ∃ earlier later, before = earlier ++ .expired :: later ∧ .closed ∉ earlier := by
  obtain ⟨hexpired, -⟩ := h before .cancelled after hsplit
  obtain ⟨earlier, later, rfl⟩ := List.append_of_mem hexpired
  refine ⟨earlier, later, rfl, ?_⟩
  exact (h earlier .expired (later ++ .cancelled :: after) (by simp [hsplit])).1

/-- The timer's wait cannot end with the time being up once the timer is closed. -/
theorem not_expired (hsplit : history = before ++ .closed :: after) (hbefore : .expired ∉ before) :
    .expired ∉ history := by
  intro hmem
  rw [hsplit, List.mem_append, List.mem_cons] at hmem
  rcases hmem with hmem | hmem | hmem
  · exact hbefore hmem
  · cases hmem
  · -- an expiry after the closing is not warranted
    obtain ⟨earlier, later, rfl⟩ := List.append_of_mem hmem
    have hwarrant := h (before ++ .closed :: earlier) .expired later (by simp [hsplit])
    exact hwarrant.1 (by simp)

theorem expired_mem (hmem : .cancelled ∈ history) : .expired ∈ history := by
  obtain ⟨before, after, hsplit⟩ := List.append_of_mem hmem
  have hexpired := (h before .cancelled after hsplit).1
  simp [hsplit, hexpired]

theorem cancelled_mem (hmem : .interrupted ∈ history) : .cancelled ∈ history := by
  obtain ⟨before, after, hsplit⟩ := List.append_of_mem hmem
  have hcancelled := (h before .interrupted after hsplit).1
  simp [hsplit, hcancelled]

theorem closed_mem (hmem : .finished ∈ history) : .closed ∈ history := by
  obtain ⟨before, after, hsplit⟩ := List.append_of_mem hmem
  have hclosed := (h before .finished after hsplit).1
  simp [hsplit, hclosed]

/-- Only somebody else does something after the owner has waited. -/
theorem stopped_of_released (hsplit : history = before ++ .released :: after)
    (hx : x ∈ after) : x = .stopped := by
  obtain ⟨earlier, later, rfl⟩ := List.append_of_mem hx
  have hreleased := h before .released _ hsplit
  have hfinished : .finished ∈ before ++ .released :: earlier := by simp [hreleased.1]
  have hclosed : .closed ∈ before ++ .released :: earlier := by
    have hbefore : Orderly before := h.of_append hsplit
    simp [hbefore.closed_mem hreleased.1]
  have hx := h (before ++ .released :: earlier) x later (by simp [hsplit])
  cases x with
  | stopped => rfl
  | closed => exact absurd hclosed hx
  | released => exact absurd (by simp) hx.2
  | expired | cancelled | interrupted | paused | finished => exact absurd hfinished hx.2

end Orderly

/-- What holds at every moment of a deadline. -/
structure Disciplined (s : Deadline) : Prop where
  /-- The timer cancels only if the time was up while it was open. -/
  cancelled : ∀ before after, s.history = before ++ .cancelled :: after →
    ∃ earlier later, before = earlier ++ .expired :: later ∧ .closed ∉ earlier
  /-- A timer that is not closed comes to cancel. -/
  comes : s.holder = .holding → ∃ n ≤ 2, .cancelled ∈ (s.run (List.replicate n .turn)).history
  /-- Once the time was up, nobody keeps it from doing so. -/
  due : .expired ∈ s.history → ∀ moves, .turn ∈ moves → .cancelled ∈ (s.run moves).history
  interrupted : ∀ before after, s.history = before ++ .interrupted :: after →
    .cancelled ∈ before
  /-- Until it is closed, the next interruption is never more than a pause away. -/
  persistent : .cancelled ∈ s.history → .closed ∉ s.history →
    (s.run [.turn]).history = s.history ++ [.interrupted] ∨
      (s.run [.turn, .turn]).history = s.history ++ [.paused, .interrupted]
  last : ∀ before after, s.history = before ++ .closed :: after → after.count .interrupted ≤ 1
  /-- The owner does not wait for ever. -/
  brief : s.holder = .waiting →
    ∃ n ≤ 3, (s.run (List.replicate n .turn ++ [.release])).holder = .released
  released : ∀ before after, s.history = before ++ .released :: after →
    .finished ∈ before ∧ ∀ x ∈ after, x = .stopped
  ended : s.holder = .released → s.timer.turn = none ∧ .released ∈ s.history
  /-- A timer that is closed in time does nothing. -/
  spared : ∀ before after, s.history = before ++ .closed :: after → .expired ∉ before →
    .cancelled ∉ s.history ∧ .interrupted ∉ s.history
  token : s.cancelled = true ↔ .cancelled ∈ s.history ∨ .stopped ∈ s.history

theorem history_step (s : Deadline) (x : Move) : s.history <+: (s.step x).history := by
  have hsteps := s.steps_step x
  generalize s.step x = s' at hsteps ⊢
  cases hsteps with
  | idle | arm => exact List.prefix_rfl
  | turn | close | release | stop => exact List.prefix_append _ _

theorem history_run (s : Deadline) (moves : List Move) : s.history <+: (s.run moves).history := by
  induction moves generalizing s with
  | nil => exact List.prefix_rfl
  | cons x rest ih => exact (s.history_step x).trans (ih (s.step x))

theorem Sound.comes (h : Sound s) (hholding : s.holder = .holding) :
    ∃ n ≤ 2, .cancelled ∈ (s.run (List.replicate n .turn)).history := by
  have hopen : s.timer.closed = false := by
    rw [← Bool.not_eq_true, h.holder, hholding]
    simp
  have hplaced := h.placed
  have hunfinished : .finished ∉ s.history := fun hmem => by
    simpa [hopen] using h.closed.1 (h.orderly.closed_mem hmem)
  obtain ⟨holder, ⟨phase, closed⟩, token, history⟩ := s
  cases hholding
  cases hopen
  cases phase with
  | counting =>
    refine ⟨2, by omega, ?_⟩
    show .cancelled ∈ (history ++ [.expired]) ++ [.cancelled]
    exact List.mem_append_right _ List.mem_cons_self
  | expired =>
    refine ⟨1, by omega, ?_⟩
    show .cancelled ∈ history ++ [.cancelled]
    exact List.mem_append_right _ List.mem_cons_self
  | alarming => exact ⟨0, by omega, hplaced.cancelled (Or.inl rfl)⟩
  | pausing => exact ⟨0, by omega, hplaced.cancelled (Or.inr rfl)⟩
  | finished => exact absurd (hplaced.finished.2 rfl) hunfinished

theorem Sound.due (h : Sound s) (hexpired : .expired ∈ s.history) {moves : List Move}
    (hturn : .turn ∈ moves) : .cancelled ∈ (s.run moves).history := by
  induction moves generalizing s with
  | nil => cases hturn
  | cons x rest ih =>
    have hlater := ((s.step x).history_run rest).subset
    show .cancelled ∈ ((s.step x).run rest).history
    rcases h.placed.due hexpired with hphase | hcancelled
    · rcases List.mem_cons.mp hturn with rfl | hrest
      -- this is the turn with which it cancels
      · refine hlater ?_
        have hset : s.holder ≠ .unset := fun hunset => by simpa [hphase] using h.unset hunset
        obtain ⟨holder, ⟨phase, closed⟩, token, history⟩ := s
        cases hphase
        cases holder with
        | unset => exact absurd rfl hset
        | holding | waiting | released => exact List.mem_append_right _ List.mem_cons_self
      · exact ih (h.step x) ((s.history_step x).subset hexpired) hrest
    · exact hlater ((s.history_step x).subset hcancelled)

theorem Sound.persistent (h : Sound s) (hcancelled : .cancelled ∈ s.history)
    (hopen : .closed ∉ s.history) :
    (s.run [.turn]).history = s.history ++ [.interrupted] ∨
      (s.run [.turn, .turn]).history = s.history ++ [.paused, .interrupted] := by
  -- having cancelled, the timer is about to interrupt, or it pauses before it does so again
  have hphase := h.placed.alarmed hcancelled
  have hrunning : s.timer.phase ≠ .finished := fun hfinished =>
    hopen (h.orderly.closed_mem (h.placed.finished.2 hfinished))
  have hset : s.holder ≠ .unset := fun hunset => by simp [h.unset hunset] at hphase
  rw [h.closed, Bool.not_eq_true] at hopen
  obtain ⟨holder, ⟨phase, closed⟩, token, history⟩ := s
  cases hopen
  cases holder with
  | unset => exact absurd rfl hset
  | holding | waiting | released =>
    rcases hphase with hphase | hphase | hphase
    · cases hphase
      exact Or.inl rfl
    · cases hphase
      exact Or.inr (List.append_assoc history [.paused] [.interrupted])
    · exact absurd hphase hrunning

theorem Sound.brief (h : Sound s) (hwaiting : s.holder = .waiting) :
    ∃ n ≤ 3, (s.run (List.replicate n .turn ++ [.release])).holder = .released := by
  have hclosed := h.holder.2 (Or.inl hwaiting)
  obtain ⟨holder, ⟨phase, closed⟩, token, history⟩ := s
  cases hwaiting
  cases hclosed
  cases phase with
  | counting => exact ⟨1, by omega, rfl⟩
  | expired => exact ⟨3, by omega, rfl⟩
  | alarming => exact ⟨2, by omega, rfl⟩
  | pausing => exact ⟨1, by omega, rfl⟩
  | finished => exact ⟨0, by omega, rfl⟩

/-- **A deadline that has been disarmed is over.** The timer, its owner and whoever else cancels
the token take their steps in any order. -/
theorem disciplined_run (moves : List Move) : Disciplined (run {} moves) := by
  have h := Sound.start.run moves
  generalize run {} moves = s at h ⊢
  constructor
  case cancelled => exact fun before after hsplit => h.orderly.expired_of_cancelled hsplit
  case interrupted => exact fun before after hsplit => (h.orderly before _ after hsplit).1
  case comes => exact h.comes
  case due => exact fun hexpired moves hturn => h.due hexpired hturn
  case persistent => exact h.persistent
  case last =>
    intro before after hsplit
    have hspent := h.spent before after hsplit
    omega
  case brief => exact h.brief
  case released =>
    intro before after hsplit
    exact ⟨(h.orderly before _ after hsplit).1, fun x hx => h.orderly.stopped_of_released hsplit hx⟩
  case ended =>
    intro hreleased
    refine ⟨?_, h.released.2 hreleased⟩
    simp [Timer.turn, Timer.step, h.ended hreleased]
  case spared =>
    intro before after hsplit hbefore
    have hunexpired := h.orderly.not_expired hsplit hbefore
    exact ⟨fun hmem => hunexpired (h.orderly.expired_mem hmem),
      fun hmem => hunexpired (h.orderly.expired_mem (h.orderly.cancelled_mem hmem))⟩
  case token => exact h.token

/-- The owner closes the timer between the end of its wait and the cancellation. -/
example : (run {} [.arm true, .turn, .close, .turn, .turn, .turn, .release]).history =
    [.expired, .closed, .cancelled, .interrupted, .finished, .released] := by
  decide

end Deadline

end ReadinessBench

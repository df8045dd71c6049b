import ReadinessBench.Proofs.Lists
import ReadinessBench.Proofs.Workload.Course
import ReadinessBench.Proofs.Workload.InRange

/-!
# The pace of a workload

A workload waits for one thing at a time, and with everything it waits for it goes on: a look, a
write, a look, a read, a look and a draw make a round, and then the next one begins, until a look
ends it all. Where it is in its round is told by how many of these things have come.
-/

namespace ReadinessBench

/-- What a workload can wait for. -/
inductive Wanted where
  | look
  | write
  | read
  | draw
  deriving DecidableEq, Repr

namespace Stage

def wants : Stage → Option Wanted
  | .ready | .sent _ | .received _ => some .look
  | .sending => some .write
  | .receiving => some .read
  | .drawing => some .draw
  | .over _ => none

theorem of_wants {stage : Stage} {w : Wanted} (h : stage.wants = some w) :
    match w with
    | .look => True
    | .write => stage = .sending
    | .read => stage = .receiving
    | .draw => stage = .drawing := by
  cases stage <;> cases h <;> trivial

/-- How many things a workload still takes at most when the token is cancelled. -/
def patience : Stage → Nat
  | .ready | .sent _ | .received _ => 1
  | .sending | .receiving | .drawing => 2
  | .over _ => 0

theorem patience_le (stage : Stage) : stage.patience ≤ 2 := by
  unfold patience
  split <;> decide

end Stage

namespace Course

/-- What a move brings. -/
def Move.brings : Move → Option Wanted
  | .cancel => none
  | .look => some .look
  | .write _ => some .write
  | .read _ => some .read
  | .draw _ => some .draw

variable {s : Course}

/-- How many things that the workload has waited for have come. -/
def taken (s : Course) : Nat := s.looks.length + s.calls.length + s.draws.length

/-- The moves bring what the workload waits for, as long as it waits for something. -/
def Serves (s : Course) : List Move → Prop
  | [] => True
  | x :: rest =>
    (x.brings = none ∨ s.workload.stage.wants = none ∨ x.brings = s.workload.stage.wants) ∧
      (s.step x).Serves rest

theorem wants_eq_none_iff : s.workload.stage.wants = none ↔ s.workload.isOver = true := by
  unfold Workload.isOver
  cases s.workload.stage <;> simp [Stage.wants]

theorem Serves.wanted {x : Move} {rest : List Move} (h : s.Serves (x :: rest))
    (hgoes : ¬s.workload.isOver = true) (hbrings : x.brings.isSome = true) :
    x.brings = s.workload.stage.wants := by
  rcases h.1 with hnone | hnone | hwanted
  · rw [hnone] at hbrings
    cases hbrings
  · exact absurd (wants_eq_none_iff.mp hnone) hgoes
  · exact hwanted

theorem patience_eq_zero_iff : s.workload.stage.patience = 0 ↔ s.workload.isOver = true := by
  unfold Workload.isOver
  cases s.workload.stage <;> simp [Stage.patience]

/-- A workload that is over takes nothing more. -/
theorem workload_step_of_over (h : s.workload.isOver = true) (x : Move) :
    (s.step x).workload = s.workload := by
  unfold Workload.isOver at h
  split at h
  · rename_i hstage
    cases x <;> simp only [step, look, hstage]
  · cases h

theorem workload_run_of_over (h : s.workload.isOver = true) (moves : List Move) :
    (s.run moves).workload = s.workload := by
  unfold run
  induction moves generalizing s with
  | nil => rfl
  | cons x rest ih =>
    have hsame := workload_step_of_over h x
    exact (ih (hsame ▸ h)).trans hsame

theorem cancelled_step (s : Course) (x : Move) :
    (s.step x).cancelled = (s.cancelled || x.brings.isNone) := by
  cases x with
  | cancel => simp [step, Move.brings]
  | look =>
    simp only [step, look, Move.brings]
    split <;> simp
  | write result =>
    simp only [step, Move.brings]
    split <;> simp [noteCall]
  | read result =>
    simp only [step, Move.brings]
    split <;> simp [noteCall]
  | draw pair =>
    simp only [step, Move.brings]
    split <;> simp

theorem length_calls_look (s : Course) : s.look.calls.length = s.calls.length := by
  unfold look
  split
  · rfl
  · exact length_modifyLast _ _
  · exact length_modifyLast _ _
  · rfl

/-- What the workload waits for is taken when it comes, and nothing else is. -/
theorem taken_step (s : Course) (x : Move) :
    (s.step x).taken =
      if x.brings.isSome ∧ x.brings = s.workload.stage.wants then s.taken + 1 else s.taken := by
  have hlook := s.length_calls_look
  cases hstage : s.workload.stage <;> cases x <;>
    simp [step, look, noteCall, hstage, Move.brings, Stage.wants, taken] at hlook ⊢ <;> omega

/-- A look lets the workload go on, unless it ends it. -/
theorem progress_look (w : Workload) (cancelled : Bool) (hwants : w.stage.wants = some .look) :
    (w.look cancelled).isOver = true ∨ (w.look cancelled).progress = w.progress + 1 := by
  unfold Workload.look Workload.isOver Workload.progress
  cases hstage : w.stage with
  | ready =>
    cases cancelled with
    | false => exact Or.inr rfl
    | true => exact Or.inl rfl
  | sent result =>
    cases cancelled with
    | false =>
      dsimp only
      cases checkTransfer "write" w.message.size result with
      | ok => exact Or.inr rfl
      | error e => exact Or.inl rfl
    | true => exact Or.inl rfl
  | received result =>
    cases cancelled with
    | false =>
      dsimp only
      cases checkTransfer "read" w.message.size result with
      | ok => exact Or.inr rfl
      | error e => exact Or.inl rfl
    | true => exact Or.inl rfl
  | sending | receiving | drawing | «over» =>
    rw [hstage] at hwants
    cases hwants

/-- With what it waits for the workload comes to the next place of its round, or to its end. -/
theorem progress_step (s : Course) {x : Move} (hbrings : x.brings.isSome = true)
    (hwanted : x.brings = s.workload.stage.wants) :
    (s.step x).workload.isOver = true ∨
      (s.step x).workload.progress = s.workload.progress + 1 := by
  cases x with
  | cancel => cases hbrings
  | look =>
    have hlook : s.look.workload = s.workload.look s.cancelled := by
      unfold look Workload.look
      cases s.workload.stage <;> rfl
    show s.look.workload.isOver = true ∨ _ = _
    rw [show s.step .look = s.look from rfl, hlook]
    exact progress_look s.workload s.cancelled hwanted.symm
  | write result =>
    have hstage : s.workload.stage = .sending := Stage.of_wants hwanted.symm
    right
    simp only [step, hstage, Workload.wrote, Workload.progress, Stage.place]
  | read result =>
    have hstage : s.workload.stage = .receiving := Stage.of_wants hwanted.symm
    right
    cases result <;> simp only [step, hstage, Workload.read, Workload.progress, Stage.place]
  | draw pair =>
    have hstage : s.workload.stage = .drawing := Stage.of_wants hwanted.symm
    right
    simp only [step, hstage, Workload.drew, Workload.progress, Stage.place]

/-- Until it is over the workload keeps count of what has come. -/
def Paced (s : Course) : Prop :=
  s.workload.isOver = false → s.taken + 1 = s.workload.progress

theorem paced_start (pairs : Nat) (message : Buffer) : Paced (start pairs message) := fun _ => rfl

/-- What the workload does not wait for changes nothing but the token. -/
theorem workload_step_of_not_wanted (s : Course) {x : Move}
    (h : ¬(x.brings.isSome = true ∧ x.brings = s.workload.stage.wants)) :
    (s.step x).workload = s.workload := by
  cases hstage : s.workload.stage <;> cases x <;>
    simp_all [step, look, Move.brings, Stage.wants]

namespace Paced

theorem step (h : s.Paced) (x : Move) : (s.step x).Paced := by
  intro hgoes
  have htaken := s.taken_step x
  by_cases hwanted : x.brings.isSome = true ∧ x.brings = s.workload.stage.wants
  · rw [if_pos hwanted] at htaken
    have hbefore : s.workload.isOver = false := by
      rw [← Bool.not_eq_true, ← wants_eq_none_iff, ← hwanted.2]
      exact Option.isSome_iff_ne_none.mp hwanted.1
    rcases s.progress_step hwanted.1 hwanted.2 with hover | hplace
    · rw [hover] at hgoes
      cases hgoes
    · have hpace := h hbefore
      omega
  · rw [if_neg hwanted] at htaken
    have hsame := s.workload_step_of_not_wanted hwanted
    rw [hsame] at hgoes ⊢
    rw [htaken]
    exact h hgoes

theorem run (h : s.Paced) (moves : List Move) : (s.run moves).Paced := by
  unfold Course.run
  induction moves generalizing s with
  | nil => exact h
  | cons x rest ih => exact ih (h.step x)

end Paced

/-- As long as it gets what it waits for, the workload takes all of it, or it comes to its end. -/
theorem taken_run {moves : List Move} (h : s.Serves moves) :
    (s.run moves).workload.isOver = true ∨
      (s.run moves).taken = s.taken + moves.countP (·.brings.isSome) := by
  induction moves generalizing s with
  | nil => exact Or.inr rfl
  | cons x rest ih =>
    have hrest := h.2
    have htaken := s.taken_step x
    show ((s.step x).run rest).workload.isOver = true ∨ ((s.step x).run rest).taken = _
    by_cases hover : s.workload.isOver = true
    · have hsame := workload_step_of_over hover x
      rw [workload_run_of_over (hsame ▸ hover), hsame]
      exact Or.inl hover
    · refine (ih hrest).imp id fun hall => ?_
      rw [hall, htaken, List.countP_cons]
      by_cases hbrings : x.brings.isSome = true
      · rw [if_pos ⟨hbrings, h.wanted hover hbrings⟩, if_pos hbrings]
        omega
      · rw [if_neg fun h => hbrings h.1, if_neg hbrings, Nat.add_zero]

/-- When the token is cancelled, everything that comes brings the end nearer. -/
theorem patience_step (hcancelled : s.cancelled = true) {x : Move}
    (hbrings : x.brings.isSome = true) (hwanted : x.brings = s.workload.stage.wants) :
    (s.step x).workload.stage.patience + 1 = s.workload.stage.patience := by
  cases x with
  | cancel => cases hbrings
  | look =>
    cases hstage : s.workload.stage with
    | ready | sent | received =>
      simp only [step, look, Workload.look, hstage, hcancelled, Stage.patience, if_true]
    | sending | receiving | drawing | «over» =>
      rw [hstage] at hwanted
      cases hwanted
  | write result =>
    have hstage : s.workload.stage = .sending := Stage.of_wants hwanted.symm
    simp only [step, hstage, Workload.wrote, Stage.patience]
  | read result =>
    have hstage : s.workload.stage = .receiving := Stage.of_wants hwanted.symm
    cases result <;> simp only [step, hstage, Workload.read, Stage.patience]
  | draw pair =>
    have hstage : s.workload.stage = .drawing := Stage.of_wants hwanted.symm
    simp only [step, hstage, Workload.drew, Stage.patience]

/-- When the token is cancelled, the workload comes to its end with the second thing it waits for,
if not with the first. -/
theorem isOver_run_of_cancelled (hcancelled : s.cancelled = true) {moves : List Move}
    (h : s.Serves moves)
    (hmany : s.workload.stage.patience ≤ moves.countP (·.brings.isSome)) :
    (s.run moves).workload.isOver = true := by
  induction moves generalizing s with
  | nil => exact patience_eq_zero_iff.mp (Nat.le_zero.mp hmany)
  | cons x rest ih =>
    have hrest := h.2
    rw [List.countP_cons] at hmany
    have hlater : (s.step x).cancelled = true := by
      rw [s.cancelled_step, hcancelled, Bool.true_or]
    show ((s.step x).run rest).workload.isOver = true
    by_cases hover : s.workload.isOver = true
    · have hsame := workload_step_of_over hover x
      rw [workload_run_of_over (hsame ▸ hover), hsame]
      exact hover
    · by_cases hbrings : x.brings.isSome = true
      · have hnearer := patience_step hcancelled hbrings (h.wanted hover hbrings)
        rw [if_pos hbrings] at hmany
        exact ih hlater hrest (by omega)
      · have hsame := s.workload_step_of_not_wanted (x := x) fun hwanted => hbrings hwanted.1
        rw [if_neg hbrings] at hmany
        exact ih hlater hrest (hsame ▸ hmany)

end Course

end ReadinessBench

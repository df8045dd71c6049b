import ReadinessBench.Workload.Traffic

/-!
# The workload stays in range

The workload keeps the position of its pair in the list of all pairs, and it counts its round trips.
Whatever its calls bring, whatever the draws come from and whenever the time is up: the position is
one of the list, and the count grows by at most one in six steps.

Main statement: `Traffic.Reaches.inRange`.
-/

namespace ReadinessBench

/-! ## One step of the workload -/

/-- The place of a stage in the round trip that begins with a look at the token. The draw at the end
of a round trip belongs to it, but the round trip has been counted by then. -/
def Stage.place : Stage → Nat
  | .drawing | .over _ => 0
  | .ready => 1
  | .sending => 2
  | .sent _ => 3
  | .receiving => 4
  | .received _ => 5

namespace Workload

/-- How far the workload has come, in steps. -/
def progress (w : Workload) : Nat := 6 * w.roundTrips + w.stage.place

/-- What may become of the workload in one step. -/
inductive Next (w : Workload) : Workload → Prop where
  | look (cancelled : Bool) : Next w (w.look cancelled)
  | wrote (result : Except Failure Nat) : Next w (w.wrote result)
  | read (result : Except Failure Bytes) : Next w (w.read result)
  | drew {pair : Nat} (hpair : 0 < w.pairs → pair < w.pairs) : Next w (w.drew pair)
  | idle : Next w w

variable {w w' : Workload}

theorem progress_look_le (w : Workload) (cancelled : Bool) :
    (w.look cancelled).progress ≤ w.progress + 1 := by
  unfold look progress
  split
  · rename_i hstage
    rw [hstage]
    cases cancelled with
    | false => exact Nat.le_refl _
    | true => exact Nat.le_add_right _ 2
  · rename_i hstage
    rw [hstage]
    repeat' split
    all_goals
      simp only [Stage.place]
      omega
  · rename_i hstage
    rw [hstage]
    repeat' split
    all_goals
      simp only [Stage.place]
      omega
  · exact Nat.le_succ _

theorem progress_wrote_le (w : Workload) (result : Except Failure Nat) :
    (w.wrote result).progress ≤ w.progress + 1 := by
  unfold wrote progress
  split
  · rename_i hstage
    rw [hstage]
    exact Nat.le_refl _
  · exact Nat.le_succ _

theorem progress_read_le (w : Workload) (result : Except Failure Bytes) :
    (w.read result).progress ≤ w.progress + 1 := by
  unfold read progress
  split
  · rename_i hstage
    rw [hstage]
    exact Nat.le_refl _
  · rename_i hstage
    rw [hstage]
    exact Nat.le_refl _
  · exact Nat.le_succ _

theorem progress_drew_le (w : Workload) (pair : Nat) :
    (w.drew pair).progress ≤ w.progress + 1 := by
  unfold drew progress
  split
  · rename_i hstage
    rw [hstage]
    exact Nat.le_refl _
  · exact Nat.le_succ _

theorem Next.progress_le (h : w.Next w') : w'.progress ≤ w.progress + 1 := by
  cases h with
  | look cancelled => exact progress_look_le w cancelled
  | wrote result => exact progress_wrote_le w result
  | read result => exact progress_read_le w result
  | drew => exact progress_drew_le w _
  | idle => exact Nat.le_succ _

theorem Next.pairs_eq (h : w.Next w') : w'.pairs = w.pairs := by
  cases h with
  | look cancelled => exact look_pairs w cancelled
  | wrote result => unfold Workload.wrote; split <;> rfl
  | read result => unfold Workload.read; split <;> rfl
  | drew => unfold Workload.drew; split <;> rfl
  | idle => rfl

/-- Only a draw moves on to another pair. -/
theorem Next.current_lt (h : w.Next w') (hcurrent : w.current < w.pairs) :
    w'.current < w.pairs := by
  cases h with
  | look cancelled => rwa [look_current]
  | wrote result => unfold Workload.wrote; split <;> exact hcurrent
  | read result => unfold Workload.read; split <;> exact hcurrent
  | drew hpair =>
    unfold Workload.drew
    split
    · exact hpair (Nat.zero_lt_of_lt hcurrent)
    · exact hcurrent
  | idle => exact hcurrent

end Workload

/-! ## All steps of the traffic -/

namespace Traffic

variable {t u : Traffic} {pairs steps : Nat}

/-- The traffic may come to this after so many steps of the workload. Between them the time may be
up, and everything else may change as it likes: what the calls will bring, whether the token is
cancelled, and what the draws are made of. -/
inductive Reaches (t : Traffic) : Nat → Traffic → Prop where
  | refl : Reaches t 0 t
  | advance {steps : Nat} {u : Traffic} (h : Reaches t steps u) : Reaches t (steps + 1) u.advance
  | alarm {steps : Nat} {u : Traffic} (h : Reaches t steps u) : Reaches t steps u.alarm
  | world {steps : Nat} {u : Traffic} (bench : Bench) (draw : Draw) (h : Reaches t steps u) :
    Reaches t steps { u with bench, draw }

theorem workload_alarm (t : Traffic) : t.alarm.workload = t.workload := by
  unfold alarm
  split
  rfl

theorem pairs_alarm (t : Traffic) : t.alarm.pairs = t.pairs := by
  unfold alarm
  split
  rfl

theorem next_advance (t : Traffic) : t.workload.Next t.advance.workload := by
  unfold advance
  cases t.workload.stage with
  | ready => exact .look _
  | sent => exact .look _
  | received => exact .look _
  | sending =>
    generalize t.bench.send t.target t.workload.message.contents = sent
    cases sent
    exact .wrote _
  | receiving =>
    dsimp only
    split
    · dsimp only
      rw [workload_alarm]
      exact .read _
    · exact .read _
  | drawing =>
    have hdrawn : 0 < t.workload.pairs →
        (t.draw.below t.workload.pairs).1 < t.workload.pairs := t.draw.below_lt
    -- to evaluate the draw would take long
    generalize t.draw.below t.workload.pairs = drawn at hdrawn ⊢
    cases drawn
    exact .drew hdrawn
  | «over» => exact .idle

theorem pairs_advance (t : Traffic) : t.advance.pairs = t.pairs := by
  unfold advance
  cases t.workload.stage with
  | ready => rfl
  | sent => rfl
  | received => rfl
  | sending =>
    generalize t.bench.send t.target t.workload.message.contents = sent
    cases sent
    rfl
  | receiving =>
    dsimp only
    split
    · exact pairs_alarm t
    · rfl
  | drawing =>
    generalize t.draw.below t.workload.pairs = drawn
    cases drawn
    rfl
  | «over» => rfl

/-- The traffic has so many pairs, the position of the workload's pair is one of them, and there are
at least six steps to a round trip. -/
structure InRange (t : Traffic) (pairs steps : Nat) : Prop where
  length_eq : t.pairs.length = pairs
  counted : t.workload.pairs = pairs
  current_lt : t.workload.current < pairs
  progress_le : t.workload.progress ≤ steps + 1

namespace InRange

theorem advance (h : t.InRange pairs steps) : t.advance.InRange pairs (steps + 1) := by
  have hnext := t.next_advance
  constructor
  · rw [pairs_advance, h.length_eq]
  · rw [hnext.pairs_eq, h.counted]
  · rw [← h.counted]
    exact hnext.current_lt (h.counted.symm ▸ h.current_lt)
  · have := hnext.progress_le
    have := h.progress_le
    omega

theorem alarm (h : t.InRange pairs steps) : t.alarm.InRange pairs steps := by
  constructor
  · rw [pairs_alarm, h.length_eq]
  · rw [workload_alarm, h.counted]
  · rw [workload_alarm]
    exact h.current_lt
  · rw [workload_alarm]
    exact h.progress_le

theorem world (h : t.InRange pairs steps) (bench : Bench) (draw : Draw) :
    ({ t with bench, draw } : Traffic).InRange pairs steps :=
  ⟨h.length_eq, h.counted, h.current_lt, h.progress_le⟩

/-- The pair of this round trip is looked up where there is one. -/
theorem getElem?_current (h : t.InRange pairs steps) :
    t.pairs[t.workload.current]? = some t.target := by
  have hcurrent : t.workload.current < t.pairs.length := h.length_eq.symm ▸ h.current_lt
  rw [target, List.getD_eq_getElem?_getD, List.getElem?_eq_getElem hcurrent, Option.getD_some]

theorem roundTrips_le (h : t.InRange pairs steps) : 6 * t.workload.roundTrips ≤ steps + 1 := by
  have := h.progress_le
  unfold Workload.progress at this
  omega

end InRange

/-- **Wherever the traffic comes to, it is in range.** -/
theorem Reaches.inRange (h : t.Reaches steps u) (ht : t.InRange pairs 0) :
    u.InRange pairs steps := by
  induction h with
  | refl => exact ht
  | advance _ ih => exact ih.advance
  | alarm _ ih => exact ih.alarm
  | world bench draw _ ih => exact ih.world bench draw

/-! ## A run -/

theorem Reaches.roundTrip (h : t.Reaches steps u) : t.Reaches (steps + 6) u.roundTrip :=
  h.advance.advance.advance.advance.advance.advance

theorem Reaches.proceed (h : t.Reaches steps u) (n : Nat) :
    ∃ k, t.Reaches (steps + k) (u.proceed n) ∧ k ≤ 6 * n := by
  induction n generalizing u steps with
  | zero => exact ⟨0, h, Nat.le_refl _⟩
  | succ n ih =>
    rw [Traffic.proceed]
    split
    · exact ⟨0, h, Nat.zero_le _⟩
    · obtain ⟨k, hreaches, hk⟩ := ih h.roundTrip
      exact ⟨6 + k, by rwa [← Nat.add_assoc], by omega⟩

/-- A run is one of the ways the traffic may take. -/
theorem reaches_run (t : Traffic) (n : Nat) :
    ∃ steps, t.Reaches steps (t.run n) ∧ steps ≤ 6 * n + 1 := by
  obtain ⟨k, hreaches, hk⟩ := (Reaches.refl (t := t)).proceed n
  rw [Nat.zero_add] at hreaches
  unfold run expire
  split
  · exact ⟨k, hreaches, by omega⟩
  · exact ⟨k + 1, hreaches.alarm.advance, by omega⟩

end Traffic

end ReadinessBench

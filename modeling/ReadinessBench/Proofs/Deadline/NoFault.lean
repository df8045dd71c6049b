import ReadinessBench.Proofs.Deadline.Race

/-!
# A deadline is no fault

The token is cancelled before the first interruption is sent, and the workload looks at it after
every call and before it judges what the call has moved. So a transfer that an interruption has cut
short is never judged. Main statement: `timely_run`.
-/

namespace ReadinessBench

/-- A wait of the timer ends, or it cancels the token, or it interrupts, which it does only after
it has cancelled. -/
theorem Timer.step_cases {t t' : Timer} {e : TimerEffect} (h : t.step = some (e, t')) :
    t'.closed = t.closed ∧
      (e = .none ∧ (t'.phase = .expired ∨ t.phase = .pausing ∧ t'.phase = .alarming ∨
          t'.phase = .finished ∧ t.closed = true) ∨
        e = .cancelToken ∧ t'.phase = .alarming ∨
        e = .interrupt ∧ t.phase = .alarming ∧ t'.phase = .pausing) := by
  obtain ⟨phase, closed⟩ := t
  cases phase <;> cases closed <;> cases h <;> simp

theorem checkTransfer_of_isWhole {operation : String} {size : Nat} {result : Except Failure Nat}
    (h : Race.isWhole size result = true) : checkTransfer operation size result = .ok () := by
  cases result with
  | error f => cases h
  | ok moved => rw [checkTransfer, if_pos (of_decide_eq_true h)]

namespace Race

variable {s s' : Race}

/-- Why no fault can be reported. -/
structure Sound (s : Race) : Prop where
  /-- Interruptions are sent only when the token has been cancelled. -/
  armed : s.timer.phase = .alarming ∨ s.timer.phase = .pausing → s.cancelled = true
  /-- An interruption that is under way can hit only a thread that sees the cancellation. -/
  heard : 0 < s.pending → s.visible = true
  /-- What is about to be judged is a whole message, or it will not be judged. -/
  excused : ∀ result, s.workload.stage = .sent result ∨ s.workload.stage = .received result →
    isWhole s.workload.message.size result = true ∨ s.visible = true
  noFault : ∀ f, s.workload.stage = .over f → f = none
  /-- The timer does not stop unless it is told to. -/
  persistent : s.timer.phase = .finished → s.timer.closed = true

theorem Sound.start (pairs : Nat) (message : Buffer) : Sound (start pairs message) where
  armed := nofun
  heard := nofun
  excused := nofun
  noFault := nofun
  persistent := nofun

/-! ## The timer's moves -/

theorem Sound.tick (h : Sound s) : Sound s.tick := by
  unfold Race.tick
  split
  · exact h
  · rename_i t hstep
    rcases Timer.step_cases hstep with ⟨hclosed, ⟨-, hphase⟩ | ⟨he, -⟩ | ⟨he, -⟩⟩
    -- a wait has ended: only that of a pause leads back to an alarm
    · refine ⟨?_, h.heard, h.excused, h.noFault, ?_⟩
      · intro halarm
        rcases hphase with hexpired | ⟨hpausing, -⟩ | ⟨hfinished, -⟩
        · simp [hexpired] at halarm
        · exact h.armed (Or.inr hpausing)
        · simp [hfinished] at halarm
      · intro hfinished
        rcases hphase with hexpired | ⟨-, halarming⟩ | ⟨-, hclose⟩
        · simp [hexpired] at hfinished
        · simp [halarming] at hfinished
        · exact hclosed.trans hclose
    · cases he
    · cases he
  · rename_i t hstep
    rcases Timer.step_cases hstep with ⟨hclosed, ⟨he, -⟩ | ⟨-, hphase⟩ | ⟨he, -⟩⟩
    · cases he
    -- from here on the token is cancelled
    · refine ⟨fun _ => rfl, h.heard, h.excused, h.noFault, ?_⟩
      intro hfinished
      simp [hphase] at hfinished
    · cases he
  · rename_i t hstep
    rcases Timer.step_cases hstep with ⟨hclosed, ⟨he, -⟩ | ⟨he, -⟩ | ⟨-, hphase, hpausing⟩⟩
    · cases he
    · cases he
    -- the token has been cancelled before, and this is seen now
    · have hcancelled : s.cancelled = true := h.armed (Or.inl hphase)
      have hvisible : (s.visible || s.cancelled) = true := by rw [hcancelled, Bool.or_true]
      refine ⟨fun _ => hcancelled, fun _ => hvisible, fun _ _ => Or.inr hvisible, h.noFault, ?_⟩
      intro hfinished
      simp [hpausing] at hfinished

/-! ## The workload's moves -/

theorem settle_cases {result : Except Failure Nat} (h : s.settle result = some s') :
    isWhole s.workload.message.size result = true ∧ s' = s ∨
      0 < s.pending ∧ s' = { s with pending := s.pending - 1 } := by
  unfold settle at h
  split at h
  · rename_i hwhole
    exact Or.inl ⟨hwhole, (Option.some.inj h).symm⟩
  · split at h
    · rename_i hcut
      rw [Bool.and_eq_true, decide_eq_true_iff] at hcut
      exact Or.inr ⟨hcut.2, (Option.some.inj h).symm⟩
    · cases h

/-- What a transfer brings is a whole message unless the cancellation is seen. -/
theorem Sound.settle {result : Except Failure Nat} (h : Sound s) (hs : s.settle result = some s') :
    Sound s' ∧ s'.workload = s.workload ∧
      (isWhole s.workload.message.size result = true ∨ s'.visible = true) := by
  rcases settle_cases hs with ⟨hwhole, rfl⟩ | ⟨hpending, rfl⟩
  · exact ⟨h, rfl, Or.inl hwhole⟩
  · refine ⟨⟨h.armed, ?_, h.excused, h.noFault, h.persistent⟩, rfl, Or.inr (h.heard hpending)⟩
    exact fun _ => h.heard hpending

theorem Sound.setWorkload (h : Sound s) {w : Workload}
    (hexcused : ∀ result, w.stage = .sent result ∨ w.stage = .received result →
      isWhole w.message.size result = true ∨ s.visible = true)
    (hnoFault : ∀ f, w.stage = .over f → f = none) : Sound { s with workload := w } :=
  ⟨h.armed, h.heard, hexcused, hnoFault, h.persistent⟩

/-- At this stage there is nothing to be judged, and nothing has been found wrong. -/
def isCalm : Stage → Bool
  | .sent _ | .received _ | .over (some _) => false
  | _ => true

theorem Sound.calm (h : Sound s) {w : Workload} (hcalm : isCalm w.stage = true) :
    Sound { s with workload := w } := by
  apply h.setWorkload
  · rintro result (hstage | hstage) <;> rw [hstage] at hcalm <;> cases hcalm
  · intro f hover
    rw [hover] at hcalm
    cases f with
    | none => rfl
    | some e => cases hcalm

theorem Sound.look (h : Sound s) : Sound { s with workload := s.workload.look s.visible } := by
  unfold Workload.look
  split
  · apply h.calm
    dsimp only
    split <;> rfl
  · rename_i result hstage
    split
    · exact h.calm rfl
    -- the result is judged only because no cancellation has been seen
    · rename_i hvisible
      have hwhole := (h.excused result (Or.inl hstage)).resolve_right hvisible
      rw [checkTransfer_of_isWhole hwhole]
      exact h.calm rfl
  · rename_i result hstage
    split
    · exact h.calm rfl
    · rename_i hvisible
      have hwhole := (h.excused result (Or.inr hstage)).resolve_right hvisible
      rw [checkTransfer_of_isWhole hwhole]
      exact h.calm rfl
  · exact h

theorem Sound.write (h : Sound s) (result : Except Failure Nat) :
    Sound (s.step (.write result)) := by
  rw [Race.step]
  split
  · rename_i s' hstage hsettle
    obtain ⟨hs', hworkload, hgood⟩ := h.settle hsettle
    -- the result is kept for the next look and not judged yet
    have hwrote : s'.workload.wrote result = { s.workload with stage := .sent result } := by
      simp only [Workload.wrote, hworkload, hstage]
    rw [hwrote]
    refine hs'.setWorkload ?_ nofun
    rintro r (hr | hr) <;> cases hr
    exact hgood
  · exact h

theorem Sound.read (h : Sound s) (result : Except Failure Bytes) :
    Sound (s.step (.read result)) := by
  rw [Race.step]
  split
  · rename_i s' hstage hsettle
    obtain ⟨hs', hworkload, hgood⟩ := h.settle hsettle
    have hread : (s'.workload.read result).stage = .received (result.map List.length) ∧
        (s'.workload.read result).message.size = s.workload.message.size := by
      rw [hworkload]
      cases result with
      | ok data =>
        simp only [Workload.read, hstage, Buffer.size_overwrite, and_true]
        rfl
      | error f =>
        simp only [Workload.read, hstage, and_true]
        rfl
    apply hs'.setWorkload
    · rw [hread.1, hread.2]
      rintro r (hr | hr) <;> cases hr
      exact hgood
    · rw [hread.1]
      exact nofun
  · exact h

theorem Sound.step (h : Sound s) (x : Move) : Sound (s.step x) := by
  cases x with
  | timer => exact h.tick
  | close => exact ⟨h.armed, h.heard, h.excused, h.noFault, fun _ => rfl⟩
  | cancel => exact ⟨fun _ => rfl, h.heard, h.excused, h.noFault, h.persistent⟩
  | reveal =>
    -- what is seen already stays seen
    have hseen : s.visible = true → (s.visible || s.cancelled) = true := fun hvisible => by
      rw [hvisible, Bool.true_or]
    exact ⟨h.armed, fun hpending => hseen (h.heard hpending),
      fun result hstage => (h.excused result hstage).imp_right hseen, h.noFault, h.persistent⟩
  | lose =>
    exact ⟨h.armed, fun hpending => h.heard (Nat.lt_of_lt_of_le hpending (Nat.sub_le _ _)),
      h.excused, h.noFault, h.persistent⟩
  | look => exact h.look
  | write result => exact h.write result
  | read result => exact h.read result
  | draw pair =>
    unfold Race.step Workload.drew
    dsimp only
    split
    · exact h.calm rfl
    · exact h

theorem Sound.run (h : Sound s) (moves : List Move) : Sound (s.run moves) := by
  unfold Race.run
  induction moves generalizing s with
  | nil => exact h
  | cons x rest ih => exact ih (h.step x)

/-! ## The end -/

theorem workload_tick (s : Race) : s.tick.workload = s.workload := by
  unfold tick
  split <;> rfl

theorem visible_tick (h : s.visible = true) : s.tick.visible = true := by
  unfold tick
  split
  · exact h
  · exact h
  · exact h
  · dsimp only
    rw [h, Bool.true_or]

theorem workload_settle {result : Except Failure Nat} (h : s.settle result = some s') :
    s'.workload = s.workload ∧ s'.visible = s.visible := by
  rcases settle_cases h with ⟨-, rfl⟩ | ⟨-, rfl⟩
  · exact ⟨rfl, rfl⟩
  · exact ⟨rfl, rfl⟩

/-- Once the cancellation is seen it stays so, and each step of the workload is one towards its
end. -/
theorem stepsLeft_step (hseen : s.visible = true) (x : Move) :
    (s.step x).visible = true ∧
      stepsLeft (s.step x).workload.stage + (s.advances x).toNat = stepsLeft s.workload.stage := by
  cases x with
  | timer =>
    refine ⟨visible_tick hseen, ?_⟩
    show stepsLeft s.tick.workload.stage + 0 = _
    rw [workload_tick]
    rfl
  | close => exact ⟨hseen, rfl⟩
  | cancel => exact ⟨hseen, rfl⟩
  | reveal => exact ⟨by rw [step, hseen, Bool.true_or], rfl⟩
  | lose => exact ⟨hseen, rfl⟩
  | look =>
    refine ⟨hseen, ?_⟩
    cases hstage : s.workload.stage <;>
      simp [step, advances, Workload.look, hstage, hseen, stepsLeft]
  | write result =>
    rw [step, advances]
    cases hstage : s.workload.stage with
    | sending =>
      cases hsettle : s.settle result with
      | none => exact ⟨hseen, by rw [hstage]; rfl⟩
      | some s' =>
        obtain ⟨hworkload, hvisible⟩ := workload_settle hsettle
        refine ⟨hvisible.trans hseen, ?_⟩
        simp only [hworkload, Workload.wrote, hstage]
        rfl
    | _ => exact ⟨hseen, by rw [hstage]; rfl⟩
  | read result =>
    rw [step, advances]
    cases hstage : s.workload.stage with
    | receiving =>
      cases hsettle : s.settle (result.map List.length) with
      | none => exact ⟨hseen, by rw [hstage]; rfl⟩
      | some s' =>
        obtain ⟨hworkload, hvisible⟩ := workload_settle hsettle
        refine ⟨hvisible.trans hseen, ?_⟩
        cases result <;> simp only [hworkload, Workload.read, hstage] <;> rfl
    | _ => exact ⟨hseen, by rw [hstage]; rfl⟩
  | draw pair =>
    refine ⟨hseen, ?_⟩
    cases hstage : s.workload.stage <;> simp [step, advances, Workload.drew, hstage, stepsLeft]

theorem stepsLeft_run (hseen : s.visible = true) (moves : List Move) :
    stepsLeft (s.run moves).workload.stage + s.stepsTaken moves = stepsLeft s.workload.stage := by
  -- by induction on the moves, in which the cancellation stays seen
  induction moves generalizing s with
  | nil => rfl
  | cons x rest ih =>
    obtain ⟨hstill, hfirst⟩ := stepsLeft_step hseen x
    have hrest := ih hstill
    show stepsLeft ((s.step x).run rest).workload.stage +
      ((s.advances x).toNat + (s.step x).stepsTaken rest) = _
    omega

theorem run_append (s : Race) (xs ys : List Move) : s.run (xs ++ ys) = (s.run xs).run ys :=
  List.foldl_append

/-- The timer cannot be stopped from interrupting but by its owner. -/
theorem Sound.exists_interruption (h : Sound s) (hopen : s.timer.closed = false) :
    ∃ n ≤ 3, 0 < (s.run (List.replicate n .timer)).pending ∧
      (s.run (List.replicate n .timer)).workload = s.workload := by
  obtain ⟨workload, ⟨phase, closed⟩, cancelled, visible, pending⟩ := s
  cases hopen
  -- the timer goes round: expired, alarming, pausing, alarming, and so on
  cases phase with
  | counting => exact ⟨3, Nat.le_refl 3, Nat.succ_pos pending, rfl⟩
  | expired => exact ⟨2, by omega, Nat.succ_pos pending, rfl⟩
  | alarming => exact ⟨1, by omega, Nat.succ_pos pending, rfl⟩
  | pausing => exact ⟨2, by omega, Nat.succ_pos pending, rfl⟩
  | finished => cases h.persistent rfl

/-- What needs neither an engine nor anybody else: the timer, the workload between its calls, and
calls that an interruption makes fail. -/
def isForced : Move → Bool
  | .timer | .look | .draw _ => true
  | .write (.error f) | .read (.error f) => f = Timer.interruption
  | _ => false

theorem settle_interruption (hpending : 0 < s.pending) :
    (s.settle (.error Timer.interruption)).isSome = true := by
  have hcut : (isCut s.workload.message.size (.error Timer.interruption) &&
      decide (0 < s.pending)) = true := by
    rw [Bool.and_eq_true, decide_eq_true_iff]
    exact ⟨by simp only [isCut, decide_true], hpending⟩
  rw [Race.settle, hcut]
  rfl

/-- A call that is under way can be ended by an interruption. -/
theorem exists_forced (hpending : 0 < s.pending) (htwo : stepsLeft s.workload.stage = 2) :
    ∃ x, isForced x = true ∧ s.advances x = true := by
  have hsettle := settle_interruption hpending
  cases hstage : s.workload.stage with
  | sending =>
    refine ⟨.write (.error Timer.interruption), by decide, ?_⟩
    simp only [advances, hstage, hsettle]
  | receiving =>
    refine ⟨.read (.error Timer.interruption), by decide, ?_⟩
    simp only [advances, hstage]
    exact hsettle
  | drawing => exact ⟨.draw 0, rfl, by simp only [advances, hstage]⟩
  | _ =>
    rw [hstage] at htwo
    cases htwo

theorem look_of_seen (hseen : s.visible = true) (hone : stepsLeft s.workload.stage = 1) :
    (s.step .look).workload.stage = .over none := by
  rw [Race.step, hseen]
  cases hstage : s.workload.stage with
  | ready | sent | received => simp only [Workload.look, hstage, if_true]
  | _ =>
    rw [hstage] at hone
    cases hone

/-- An interruption gets the workload out of any call, and then it sees that it is to end. -/
theorem Sound.exists_end (h : Sound s) (hpending : 0 < s.pending) :
    ∃ moves, moves.length ≤ 2 ∧ moves.all isForced = true ∧
      (s.run moves).workload.stage = .over none := by
  have hseen := h.heard hpending
  have hbound := stepsLeft_le s.workload.stage
  have hthree : stepsLeft s.workload.stage = 0 ∨ stepsLeft s.workload.stage = 1 ∨
      stepsLeft s.workload.stage = 2 := by omega
  rcases hthree with hover | hone | htwo
  · obtain ⟨f, hstage⟩ := exists_over_of_stepsLeft hover
    refine ⟨[], Nat.zero_le 2, rfl, ?_⟩
    rw [Race.run, List.foldl_nil, hstage, h.noFault f hstage]
  -- between two calls a look is enough
  · exact ⟨[.look], Nat.le_succ 1, rfl, look_of_seen hseen hone⟩
  · obtain ⟨x, hforced, hadvances⟩ := exists_forced hpending htwo
    obtain ⟨hstill, hleft⟩ := stepsLeft_step hseen x
    rw [hadvances, htwo, Bool.toNat_true, Nat.succ.injEq] at hleft
    refine ⟨[x, .look], Nat.le_refl 2, ?_, look_of_seen hstill hleft⟩
    rw [List.all_cons, hforced]
    rfl

/-! ## Every race -/

/-- What holds at every moment of a race. -/
structure Timely (s : Race) : Prop where
  noFault : s.workload.fault = none
  /-- When the cancellation is seen, the workload is over after two more steps of its own at the
  latest, whatever else happens. -/
  nearing : s.visible = true → ∀ moves,
    stepsLeft (s.run moves).workload.stage + s.stepsTaken moves = stepsLeft s.workload.stage ∧
      s.stepsTaken moves ≤ 2
  /-- As long as its owner does not close it, the timer can bring the workload to its end, even if
  no engine ever answers. -/
  ends : s.timer.closed = false → ∃ moves, moves.length ≤ 5 ∧ moves.all isForced = true ∧
    (s.run moves).workload.stage = .over none

theorem Sound.timely (h : Sound s) : Timely s where
  noFault := by
    unfold Workload.fault
    split
    · rename_i f hover
      exact h.noFault f hover
    · rfl
  nearing hseen moves := by
    have hleft := stepsLeft_run hseen moves
    have hbound := stepsLeft_le s.workload.stage
    exact ⟨hleft, by omega⟩
  ends hopen := by
    obtain ⟨n, hn, hpending, hworkload⟩ := h.exists_interruption hopen
    obtain ⟨moves, hlength, hforced, hend⟩ := (h.run (List.replicate n .timer)).exists_end hpending
    refine ⟨List.replicate n .timer ++ moves, ?_, ?_, ?_⟩
    · rw [List.length_append, List.length_replicate]
      omega
    · rw [List.all_append, hforced, Bool.and_true, List.all_replicate]
      split <;> rfl
    · rw [run_append]
      exact hend

/-- **A run that its deadline ends is not reported as a fault.** There are any number of pairs and
messages of any size; the moves of both threads, of the engines and of whoever else cancels the
token come in any order, and interruptions cut transfers short or make them fail. -/
theorem timely_run (pairs : Nat) (message : Buffer) (moves : List Move) :
    Timely ((start pairs message).run moves) :=
  ((Sound.start pairs message).run moves).timely

example : ((start 1 (.zeroed 4)).run
    [.look, .timer, .timer, .timer, .write (.ok 3), .look]).workload.isOver = true := by
  decide

end Race

end ReadinessBench

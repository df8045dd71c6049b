import ReadinessBench.Proofs.Bench.Moments
import ReadinessBench.Proofs.Workload.InRange

/-!
# What a run may end with

A run repeats checks that its plan has passed already: whether the mechanism can be exclusive, and
whether there is a pair and a byte to send. They cannot fail again. What is left are resources that
cannot be had, and descriptors whose numbers a descriptor set has no room for. A fault of the
traffic stays in the report. Main statement: `sanctioned_run`.
-/

namespace ReadinessBench

/-- The errors that a run of a plan may end with. -/
inductive RunError (m : Mechanism) : BenchError → Prop where
  | resource (context : String) (f : Failure) : RunError m (.resource context f)
  | tooHigh (hm : m = .select) (number : Int) (hnumber : ¬ (0 ≤ number ∧ number ≤ 1023)) :
    RunError m (.capacityExceeded "select" number 1024)

/-! ## Setting up -/

namespace EngineRequest

variable {b b' : Bench} {opened : List Nat} {r : EngineRequest} {e : BenchError}

theorem ensureSelectable_error {number : Int} (h : ensureSelectable number = .error e) :
    RunError .select e := by
  unfold ensureSelectable at h
  split at h
  · cases h
  · rename_i hnumber
    cases h
    refine .tooHigh rfl number fun hfits => hnumber ⟨hfits.1, ?_⟩
    have hcapacity : (selectCapacity : Int) = 1024 := rfl
    omega

theorem checkSelectable_error {watched : List Watched} (h : checkSelectable watched = .error e) :
    RunError .select e := by
  unfold checkSelectable at h
  induction watched with
  | nil => cases h
  | cons w rest ih =>
    rw [List.forM_cons] at h
    cases hfirst : ensureSelectable w.number with
    | ok =>
      rw [hfirst] at h
      exact ih h
    | error e' =>
      rw [hfirst] at h
      cases h
      exact ensureSelectable_error hfirst

theorem map_error {α β : Type} {f : α → β} {x : Except BenchError α} (h : x.map f = .error e) :
    x = .error e := by
  cases x with
  | ok a => cases h
  | error e' =>
    cases h
    rfl

theorem granted_error {context : String} {asked : Option Failure × Bench} {m : Mechanism}
    (h : granted context asked = (.error e, b')) : RunError m e := by
  obtain ⟨refused, next⟩ := asked
  cases refused with
  | none => cases h
  | some f =>
    cases h
    exact .resource context f

/-- What a step may fail with, where select alone looks at the numbers of descriptors. -/
theorem perform_error {step : SetupStep}
    (hexclusive : r.exclusive = true → r.mechanism.wakesOne = true)
    (hstep : step = .checkSelectable ∨ step = .checkLastSelectable → r.mechanism = .select)
    (h : r.perform opened b step = (.error e, b')) : RunError r.mechanism e := by
  cases step with
  | checkExclusive =>
    rw [perform] at h
    split at h
    · rename_i hrefused
      simp only [Bool.and_eq_true, Bool.not_eq_true'] at hrefused
      have hsupported := hexclusive hrefused.1
      rw [hrefused.2] at hsupported
      cases hsupported
    · cases h
  | blockReads => cases h
  | checkSelectable =>
    rw [perform, Prod.mk.injEq] at h
    rw [hstep (Or.inl rfl)]
    exact checkSelectable_error (map_error h.1)
  | buffer => exact granted_error h
  | workers =>
    rw [perform] at h
    split at h
    · cases h
    · rename_i hasked
      cases h
      exact granted_error hasked
  | descriptor context =>
    rw [perform] at h
    split at h <;> cases h
    exact .resource context _
  | slots => exact granted_error h
  | register context =>
    rw [perform] at h
    split at h <;> cases h
    exact .resource context _
  | checkLastSelectable =>
    rw [perform, Prod.mk.injEq] at h
    rw [hstep (Or.inr rfl)]
    exact ensureSelectable_error (map_error h.1)

theorem performAll_error {steps : List SetupStep}
    (hexclusive : r.exclusive = true → r.mechanism.wakesOne = true)
    (hsteps : ∀ step ∈ steps, step = .checkSelectable ∨ step = .checkLastSelectable →
      r.mechanism = .select)
    (h : r.performAll opened b steps = (.error e, b')) : RunError r.mechanism e := by
  induction steps generalizing opened b with
  | nil => cases h
  | cons step rest ih =>
    rw [performAll] at h
    split at h
    · exact ih (fun x hx => hsteps x (List.mem_cons_of_mem step hx)) h
    · rename_i hperform
      cases h
      exact perform_error hexclusive (hsteps step List.mem_cons_self) hperform

end EngineRequest

theorem Mechanism.eq_select_of_setup {m : Mechanism} {step : SetupStep} (hmem : step ∈ m.setup)
    (hstep : step = .checkSelectable ∨ step = .checkLastSelectable) : m = .select := by
  rcases hstep with rfl | rfl <;> revert hmem <;> cases m <;> decide

variable {p : Plan} {b b' : Bench} {pairs : List Nat} {e : BenchError}

theorem Plan.create_error (h : p.mechanism.backend.create p pairs b = (.error e, b')) :
    RunError p.mechanism e := by
  rw [Mechanism.create_backend] at h
  unfold Bench.createEngine at h
  split at h
  · rename_i hset
    cases h
    -- the plan carries the proof that the first check passes
    have hexclusive (hwish : p.exclusive = true) : p.mechanism.wakesOne = true :=
      p.mechanism.supportsExclusive_eq ▸ p.exclusive_supported hwish
    exact EngineRequest.performAll_error hexclusive
      (fun _ hmem hstep => Mechanism.eq_select_of_setup hmem hstep) hset
  · cases h

theorem Plan.extend_error {made : List EngineHandle} {n : Nat}
    (h : Fleet.extend p.mechanism.backend p pairs made n b = (.error e, b')) :
    RunError p.mechanism e := by
  induction n generalizing made b with
  | zero => cases h
  | succ n ih =>
    rw [Fleet.extend] at h
    split at h
    · exact ih h
    · rename_i hcreate
      cases h
      exact Plan.create_error hcreate

theorem Bench.openMore_refused {made : List Nat} {n : Nat} {m : Mechanism}
    (h : Bench.openMore made n b = (.error e, b')) : RunError m e := by
  induction n generalizing made b with
  | zero => cases h
  | succ n ih =>
    rw [Bench.openMore] at h
    split at h
    · exact ih h
    · cases h
      exact .resource _ _

theorem Bench.length_openMore {made : List Nat} {n : Nat}
    (h : Bench.openMore made n b = (.ok pairs, b')) : pairs.length = made.length + n := by
  induction n generalizing made b with
  | zero =>
    cases h
    exact List.length_reverse
  | succ n ih =>
    rw [Bench.openMore] at h
    split at h
    · rw [ih h, List.length_cons, Nat.add_assoc, Nat.add_comm 1 n]
    · cases h

theorem Bench.prepare_error {n size : Nat} {m : Mechanism} (hn : n ≠ 0) (hsize : size ≠ 0)
    (h : b.prepare n size = (.error e, b')) : RunError m e := by
  rw [Bench.prepare, if_neg hn, if_neg hsize] at h
  split at h <;> cases h
  exact .resource _ _

theorem Bench.arm_error {m : Mechanism} (h : b.arm = (some e, b')) : RunError m e := by
  obtain ⟨⟨step, f⟩, -, rfl⟩ := Option.map_eq_some_iff.mp (congrArg Prod.fst h)
  exact .resource _ _

theorem Plan.begin_error (h : p.mechanism.backend.begin p b = .ok (.error e, b')) :
    RunError p.mechanism e := by
  cases Backend.begin_cases h with
  | noPairs hpairs => exact Bench.openMore_refused hpairs
  | noEngines hpairs hengines =>
    unfold Fleet.create at hengines
    split at hengines
    · exact Plan.extend_error (Except.ok.inj hengines)
    · cases hengines
  | @noWorkload pairs _ _ _ _ _ hpairs hengines hworkload =>
    -- there are as many pairs as the plan asks for, which is at least one
    have hcount : pairs.length = 0 + p.pairs := Bench.length_openMore hpairs
    rw [Nat.zero_add] at hcount
    exact Bench.prepare_error (hcount ▸ p.pairs_pos) p.messageSize_pos hworkload
  | noTimer hpairs hengines hworkload htimer => exact Bench.arm_error htimer

/-! ## Traffic -/

theorem checkTransfer_error {operation : String} {expected : Nat} {result : Except Failure Nat}
    (h : checkTransfer operation expected result = .error e) :
    ∃ transferred source, e = .ioFault operation expected transferred source := by
  cases result with
  | ok moved =>
    rw [checkTransfer] at h
    split at h <;> cases h
    exact ⟨moved, none, rfl⟩
  | error f =>
    cases h
    exact ⟨0, some f, rfl⟩

/-- What the traffic reports is a transfer that went wrong. -/
def Workload.FaultsAtIo (w : Workload) : Prop :=
  ∀ e, w.fault = some e → ∃ operation expected transferred source,
    e = .ioFault operation expected transferred source

namespace Workload.FaultsAtIo

variable {w : Workload}

theorem of_fault (h : w.fault = none) : w.FaultsAtIo := by
  intro e he
  rw [h] at he
  cases he

theorem of_check {operation : String} {expected : Nat} {result : Except Failure Nat}
    (hcheck : checkTransfer operation expected result = .error e) (h : w.fault = some e) :
    w.FaultsAtIo := by
  intro e' he'
  rw [h] at he'
  cases he'
  obtain ⟨transferred, source, rfl⟩ := checkTransfer_error hcheck
  exact ⟨_, _, _, _, rfl⟩

theorem look (h : w.FaultsAtIo) (cancelled : Bool) : (w.look cancelled).FaultsAtIo := by
  unfold Workload.look
  split
  · apply of_fault
    cases cancelled <;> rfl
  · split
    · exact of_fault rfl
    · split
      · exact of_fault rfl
      · rename_i hcheck
        exact of_check hcheck rfl
  · split
    · exact of_fault rfl
    · split
      · exact of_fault rfl
      · rename_i hcheck
        exact of_check hcheck rfl
  · exact h

theorem wrote (h : w.FaultsAtIo) (result : Except Failure Nat) : (w.wrote result).FaultsAtIo := by
  unfold Workload.wrote
  split
  · exact of_fault rfl
  · exact h

theorem read (h : w.FaultsAtIo) (result : Except Failure Bytes) : (w.read result).FaultsAtIo := by
  unfold Workload.read
  split
  · exact of_fault rfl
  · exact of_fault rfl
  · exact h

theorem drew (h : w.FaultsAtIo) (pair : Nat) : (w.drew pair).FaultsAtIo := by
  unfold Workload.drew
  split
  · exact of_fault rfl
  · exact h

end Workload.FaultsAtIo

namespace Traffic

variable {t : Traffic}

theorem faultsAtIo_advance (h : t.workload.FaultsAtIo) : t.advance.workload.FaultsAtIo := by
  unfold advance
  cases t.workload.stage with
  | ready => exact h.look _
  | sent => exact h.look _
  | received => exact h.look _
  | sending =>
    generalize t.bench.send t.target t.workload.message.contents = sent
    cases sent
    exact h.wrote _
  | receiving =>
    dsimp only
    split
    · dsimp only
      rw [workload_alarm]
      exact h.read _
    · exact h.read _
  | drawing =>
    -- to evaluate the draw would take long
    generalize t.draw.below t.workload.pairs = drawn
    cases drawn
    exact h.drew _
  | «over» => exact h

theorem faultsAtIo_proceed (h : t.workload.FaultsAtIo) (n : Nat) :
    (t.proceed n).workload.FaultsAtIo := by
  induction n generalizing t with
  | zero => exact h
  | succ n ih =>
    rw [proceed]
    split
    · exact h
    · apply ih
      unfold roundTrip
      iterate 6 apply faultsAtIo_advance
      exact h

theorem faultsAtIo_run (h : t.workload.FaultsAtIo) (n : Nat) :
    (t.run n).workload.FaultsAtIo := by
  have hproceeded := faultsAtIo_proceed h n
  unfold run expire
  split
  · exact hproceeded
  · apply faultsAtIo_advance
    rw [workload_alarm]
    exact hproceeded

theorem fault_run (h : t.workload.fault = none) (n : Nat) :
    (t.run n).ending.fault = none ∨ ∃ operation expected transferred source,
      (t.run n).ending.fault = some (.ioFault operation expected transferred source) := by
  have hfaults := faultsAtIo_run (Workload.FaultsAtIo.of_fault h) n
  show (t.run n).workload.fault = none ∨ _
  cases hfault : (t.run n).workload.fault with
  | none => exact Or.inl rfl
  | some e =>
    obtain ⟨operation, expected, transferred, source, rfl⟩ := hfaults e hfault
    exact Or.inr ⟨operation, expected, transferred, source, hfault⟩

end Traffic

/-- How a run of a plan may end. -/
def RunEnd (m : Mechanism) : Except BenchError TrafficEnd → Prop
  | .ok ending => ending.fault = none ∨ ∃ operation expected transferred source,
      ending.fault = some (.ioFault operation expected transferred source)
  | .error e => RunError m e

theorem Bench.fault_prepare {n size : Nat} {w : Workload} (h : b.prepare n size = (.ok w, b')) :
    w.fault = none := by
  rw [Bench.prepare] at h
  split at h
  · cases h
  · split at h
    · cases h
    · split at h <;> cases h
      rfl

/-- **What has been checked is not refused again.** The plan comes from any settings that passed
the check, and the run starts from any bench: with any descriptors open, occupied or left, with
any requests for memory refused, with a timer that can be armed or cannot, cancelled or not. -/
theorem sanctioned_run (settings : List Draft.Setting) (p : Plan)
    (hp : (settings.foldl Draft.set {}).check = .ok p) (b b' : Bench) (draw : Draw)
    (patience : Patience) (outcome : Except BenchError TrafficEnd)
    (hrun : p.mechanism.backend.run p draw patience b = .ok (outcome, b')) :
    p.mechanism = (settings.foldl Draft.set {}).mechanism ∧ RunEnd p.mechanism outcome := by
  have hmechanism : p.mechanism = (settings.foldl Draft.set {}).mechanism := by
    unfold Draft.check at hp
    split_ifs at hp
    rw [← Except.ok.inj hp]
  refine ⟨hmechanism, ?_⟩
  unfold Backend.run at hrun
  split at hrun
  · cases hrun
  · rename_i hbegin
    cases hrun
    exact Plan.begin_error hbegin
  · rename_i u s hbegin
    cases hrun
    cases Backend.begin_cases hbegin with
    | ready hpairs hengines hworkload htimer =>
      exact Traffic.fault_run (Bench.fault_prepare hworkload) _

/-- Where the first two thousand numbers are taken, a descriptor set has no room for any pair. -/
theorem sanctioned_run_high_numbers :
    let settings : List Draft.Setting := [.pairs 2, .mechanism .select]
    let p : Plan := ⟨.select, 1, 2, 1, false, usualDuration, by decide, by decide, by decide,
      by decide, by decide⟩
    let b : Bench := { table := { DescriptorTable.initial with frontier := 2000 } }
    let e : BenchError := .capacityExceeded "select" 2000 1024
    (settings.foldl Draft.set {}).check = .ok p ∧ RunEnd p.mechanism (.error e) ∧
      ∃ b', p.mechanism.backend.run p ⟨0⟩ .untilIdle b = .ok (.error e, b') := by
  intro settings p b e
  have hp : (settings.foldl Draft.set {}).check = .ok p := by decide
  have hrun : ∃ b', p.mechanism.backend.run p ⟨0⟩ .untilIdle b = .ok (.error e, b') := by
    dsimp only [p, b, e]
    exact ⟨_, rfl⟩
  obtain ⟨b', hb'⟩ := hrun
  exact ⟨hp, (sanctioned_run settings p hp b b' ⟨0⟩ .untilIdle _ hb').2, b', hb'⟩

end ReadinessBench

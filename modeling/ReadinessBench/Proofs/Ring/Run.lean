import ReadinessBench.Proofs.Watch.Work
import ReadinessBench.Watch.Service

/-!
# A worker at its ring

The worker and the kernel act by turns. The kernel answers requests that it has, at any time, in any
order and with any result. Each wait of the worker hands the queue over and fetches what has been
answered by then, and the worker handles one answer after the other before it waits again.
Meanwhile others may ask it to stop and do as they like with the sockets.
-/

namespace ReadinessBench

/-- How the loop stands after this verdict. -/
def Verdict.ending : Verdict → ServiceEnd
  | .goOn => .waiting
  | .exit => .stopped
  | .collapse r => .collapsed r

structure RingRun where
  worker : RingWorker
  /-- Answers that the worker has not fetched. -/
  completed : List (UInt64 × Int32) := []
  /-- Answers that it has fetched and not handled. -/
  batch : List (UInt64 × Int32) := []
  handled : List (UInt64 × Int32) := []
  ending : ServiceEnd := .waiting
  /-- Tokens whose new request found no place. -/
  unarmed : List UInt64 := []
  /-- The failure of the wait that has ended the worker. -/
  failure : Option Failure := none
  /-- The worker has taken a stop request from its counter. -/
  heard : Bool := false

namespace RingRun

inductive Move where
  | answer (token : UInt64) (result : Int32)
  /-- The worker's wait begins and hands the queue over. -/
  | submit (h : Handover)
  /-- The worker's wait ends. -/
  | fetch (failure : Option Failure)
  | handle (h : Handover)
  | raise
  /-- Others have worked on the sockets. -/
  | traffic (sockets : Array SocketPair)

def reportsUnarmed (events : List Event) : Bool :=
  events.any fun e => e matches .rearmFailed _

-- The worker is at its wait.
def idle (s : RingRun) : Bool := s.ending = .waiting && s.batch.isEmpty

def withDuty (s : RingRun) (d : Duty) : RingRun := { s with worker := { s.worker with duty := d } }

def withRing (s : RingRun) (r : Ring) : RingRun := { s with worker := { s.worker with ring := r } }

def answer (s : RingRun) (token : UInt64) (result : Int32) : RingRun :=
  if token ∈ s.worker.ring.pending.map PollRequest.token then
    { s.withRing (s.worker.ring.answer token) with
      completed := s.completed ++ [(token, result)] }
  else s

def submit (s : RingRun) (h : Handover) : RingRun :=
  if s.idle then s.withRing (s.worker.ring.submit h).2 else s

-- A failure that is excused may have come with answers.
def fetch (s : RingRun) (failure : Option Failure) : RingRun :=
  if s.idle then
    match failure.filter (!RingWorker.excuses ·) with
    | some f => { s with ending := .broken, failure := some f }
    | none => { s with batch := s.completed, completed := [] }
  else s

/-- The worker handles an answer, which `rest` follow. -/
def handle (s : RingRun) (h : Handover) (token : UInt64) (result : Int32)
    (rest : List (UInt64 × Int32)) : RingRun :=
  let (verdict, events, worker) := s.worker.complete token result h
  { s with
    worker
    batch := rest
    handled := s.handled ++ [(token, result)]
    ending := verdict.ending
    unarmed := if reportsUnarmed events then token :: s.unarmed else s.unarmed
    heard := s.heard || s.worker.duty.stopTaken worker.duty }

def handleNext (s : RingRun) (h : Handover) : RingRun :=
  match s.ending, s.batch with
  | .waiting, (token, result) :: rest => s.handle h token result rest
  | _, _ => s

def raise (s : RingRun) : RingRun :=
  s.withDuty { s.worker.duty with stop := s.worker.duty.stop.raise }

/-- One move. What cannot happen changes nothing. -/
def step (s : RingRun) : Move → RingRun
  | .answer token result => s.answer token result
  | .submit h => s.submit h
  | .fetch failure => s.fetch failure
  | .handle h => s.handleNext h
  | .raise => s.raise
  | .traffic sockets => s.withDuty { s.worker.duty with sockets }

theorem idle_iff {s : RingRun} : s.idle = true ↔ s.ending = .waiting ∧ s.batch = [] := by
  rw [idle, Bool.and_eq_true, decide_eq_true_eq, List.isEmpty_iff]

def run (s : RingRun) (moves : List Move) : RingRun := moves.foldl step s

theorem run_cons (s : RingRun) (x : Move) (rest : List Move) :
    s.run (x :: rest) = (s.step x).run rest :=
  rfl

theorem step_handle_of_ended {s : RingRun} (h : Handover) (hended : s.ending ≠ .waiting) :
    s.step (.handle h) = s := by
  show s.handleNext h = s
  unfold handleNext
  split
  · rename_i hwaiting _
    exact absurd hwaiting hended
  · rfl

theorem run_handle_of_ended {s : RingRun} (h : Handover) (hended : s.ending ≠ .waiting)
    (n : Nat) : s.run (List.replicate n (.handle h)) = s := by
  induction n with
  | zero => rfl
  | succ n ih => rw [List.replicate_succ, run_cons, step_handle_of_ended h hended, ih]

/-- The worker's own loop over a batch is a run. -/
theorem run_handle (s : RingRun) (h : Handover) (hwaiting : s.ending = .waiting) :
    (s.run (List.replicate s.batch.length (.handle h))).worker =
        (s.worker.wake h s.batch).2.2 ∧
      (s.run (List.replicate s.batch.length (.handle h))).ending =
        (s.worker.wake h s.batch).1.ending := by
  induction hbatch : s.batch generalizing s with
  | nil => exact ⟨rfl, hwaiting⟩
  | cons x rest ih =>
    obtain ⟨token, result⟩ := x
    have hstep : s.step (.handle h) = s.handle h token result rest := by
      simp only [step, handleNext, hwaiting, hbatch]
    obtain ⟨verdict, events, worker, hcomplete⟩ : ∃ verdict events worker,
        s.worker.complete token result h = (verdict, events, worker) := ⟨_, _, _, rfl⟩
    have hworker : (s.handle h token result rest).worker = worker := by
      simp only [handle, hcomplete]
    have hending : (s.handle h token result rest).ending = verdict.ending := by
      simp only [handle, hcomplete]
    rw [List.length_cons, List.replicate_succ, run_cons, hstep, RingWorker.wake, hcomplete]
    cases verdict with
    | goOn =>
      obtain ⟨hrunWorker, hrunEnding⟩ := ih (s.handle h token result rest) hending rfl
      rw [hrunWorker, hrunEnding, hworker]
      exact ⟨rfl, rfl⟩
    -- what is left of the batch is not handled any more
    | exit =>
      rw [run_handle_of_ended h (by rw [hending]; exact ServiceEnd.noConfusion)]
      exact ⟨hworker, hending⟩
    | collapse r =>
      rw [run_handle_of_ended h (by rw [hending]; exact ServiceEnd.noConfusion)]
      exact ⟨hworker, hending⟩

end RingRun

/-! ## What handling an answer comes to -/

namespace RingWorker

/-- The request failed, and asking again would not help. -/
def FailsForGood (result : Int32) : Prop :=
  result.toInt < 0 ∧ -result.toInt ≠ Errno.interrupted ∧ -result.toInt ≠ Errno.tryAgain

instance (result : Int32) : Decidable (FailsForGood result) :=
  inferInstanceAs (Decidable (_ ∧ _ ∧ _))

theorem outcome_of_nonneg {result : Int32} (h : 0 ≤ result.toInt) :
    outcome result = .ok (.ok ()) := by
  have hleast : result ≠ Int32.minValue := by
    rintro rfl
    exact absurd h (by decide)
  have hneg : ¬ result < 0 := by
    rw [Int32.lt_iff_toInt_lt]
    show ¬ result.toInt < 0
    omega
  rw [outcome, if_neg hleast, if_neg hneg]

theorem outcome_of_neg {result : Int32} (hleast : result ≠ Int32.minValue)
    (h : result.toInt < 0) : outcome result = .ok (.error (.errno (-result.toInt))) := by
  have hneg : result < 0 := by
    rw [Int32.lt_iff_toInt_lt]
    exact h
  rw [outcome, if_neg hleast, if_pos hneg]

theorem isTransient_errno_iff {result : Int32} (h : result.toInt < 0) :
    (Failure.errno (-result.toInt)).isTransient = true ↔ ¬ FailsForGood result := by
  simp only [Failure.isTransient, Failure.isInterruption, Failure.isWouldBlock, Bool.or_eq_true,
    decide_eq_true_eq]
  constructor
  · rintro (hinterrupted | hagain) ⟨-, hfirst, hsecond⟩
    · exact hfirst hinterrupted
    · exact hsecond hagain
  · intro hgood
    refine Decidable.byContradiction fun hneither => ?_
    exact hgood ⟨h, fun heq => hneither (Or.inl heq), fun heq => hneither (Or.inr heq)⟩

/-- All that can become of an answer: what the worker does, and when. -/
inductive Completion (w : RingWorker) (token : UInt64) (result : Int32) (h : Handover) :
    Verdict × List Event × RingWorker → Prop where
  | passedOver (hnone : w.numberOf? token = none) : Completion w token result h (.goOn, [], w)
  | collapsed (r : RangeError) (hresult : result = Int32.minValue) :
      Completion w token result h (.collapse r, [], w)
  | failed (f : Failure) (hresult : FailsForGood result) :
      Completion w token result h
        (if token = stopToken then .exit else .goOn, [.requestFailed f], w)
  | stopped (htoken : token = stopToken) (hraised : w.duty.stop.isReadable = true) :
      Completion w token result h (.exit, [], { w with duty := w.duty.acknowledge.2 })
  | renewed (number : Nat) (d : Duty) (hwork : Duty.Work w.duty d)
      (hstop : d.stop = w.duty.stop) (hresult : ¬ FailsForGood result) :
      Completion w token result h
        (.goOn, { w with duty := d }.rearm ⟨token, number⟩ h)

/-- A worker goes on after what it does about an answer, unless it finds a stop request. -/
theorem handle_cases (w : RingWorker) (token : UInt64) :
    (token = stopToken ∧ w.duty.stop.isReadable = true ∧
        w.handle token = (.exit, { w with duty := w.duty.acknowledge.2 })) ∨
      ∃ d, Duty.Work w.duty d ∧ d.stop = w.duty.stop ∧
        w.handle token = (.goOn, { w with duty := d }) := by
  unfold handle
  by_cases htoken : token = stopToken
  · rw [if_pos htoken]
    rcases w.duty.acknowledge_cases with ⟨hraised, hack⟩ | ⟨-, hack⟩
    · exact Or.inl ⟨htoken, hraised, by rw [hack]⟩
    · exact Or.inr ⟨w.duty, Relation.ReflTransGen.refl, rfl, by rw [hack]⟩
  · right
    rw [if_neg htoken]
    cases hwatched : w.duty.watched[token.toNat]? with
    | none => exact ⟨w.duty, Relation.ReflTransGen.refl, rfl, rfl⟩
    | some x =>
      exact ⟨w.duty.echo x.pair, Duty.Work.echo (List.mem_of_getElem? hwatched),
        w.duty.stop_echo x.pair, rfl⟩

theorem complete_cases (w : RingWorker) (token : UInt64) (result : Int32) (h : Handover) :
    Completion w token result h (w.complete token result h) := by
  unfold complete
  cases hnumber : w.numberOf? token with
  | none => exact .passedOver hnumber
  | some number =>
    by_cases hleast : result = Int32.minValue
    · simp only [outcome, if_pos hleast]
      exact .collapsed _ hleast
    · by_cases hneg : result.toInt < 0
      · simp only [outcome_of_neg hleast hneg, settle]
        by_cases hgood : FailsForGood result
        · rw [if_neg fun htransient => (isTransient_errno_iff hneg).mp htransient hgood]
          exact .failed _ hgood
        · rw [if_pos ((isTransient_errno_iff hneg).mpr hgood)]
          exact .renewed number w.duty Relation.ReflTransGen.refl rfl hgood
      · simp only [outcome_of_nonneg (Int.not_lt.mp hneg), settle]
        rcases w.handle_cases token with ⟨htoken, hraised, hhandle⟩ | ⟨d, hwork, hstop, hhandle⟩
        · rw [hhandle]
          exact .stopped htoken hraised
        · rw [hhandle]
          exact .renewed number d hwork hstop fun hgood => hneg hgood.1

end RingWorker

end ReadinessBench

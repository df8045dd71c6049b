import ReadinessBench.Proofs.Descriptor.Reach
import ReadinessBench.Proofs.Ring.Requests
import ReadinessBench.Proofs.Ring.Run
import ReadinessBench.Proofs.Watch.Jobs

/-!
# A worker and its owner

The owner starts a worker, waits until the worker is ready, and in the end asks it to stop and joins
it. The worker says that it is ready, waits, and does one job after another; the request to stop may
come between any two of its steps, before its first wait as well. Others use the sockets, and what a
wait reports need not be true any more when the worker acts on it.
-/

namespace ReadinessBench

/-! ## Workers that are told what is readable -/

/-- What a wait brings: with poll, with select, or with epoll. -/
inductive WaitReport where
  | slots (stop : PollSlot) (slots : List PollSlot)
  | readable (set : DescriptorSet)
  | tokens (tokens : List UInt64)

structure LoopRun where
  mechanism : Mechanism
  stopNumber : Nat
  duty : Duty
  /-- What is left to do of the last wake-up. -/
  todo : List Job := []
  ending : ServiceEnd := .waiting
  /-- The failure of the wait that has ended the worker. -/
  failure : Option Failure := none
  /-- The worker has taken a stop request from its counter. -/
  heard : Bool := false

namespace LoopRun

def idle (s : LoopRun) : Bool := s.ending = .waiting && s.todo.isEmpty

theorem idle_iff {s : LoopRun} : s.idle = true ↔ s.ending = .waiting ∧ s.todo = [] := by
  rw [idle, Bool.and_eq_true, decide_eq_true_eq, List.isEmpty_iff]

/-- The jobs of a wake-up. A report that belongs to another mechanism brings none. -/
def jobs (s : LoopRun) (report : WaitReport) : List Job :=
  match s.mechanism, report with
  | .poll, .slots stop slots => PollLoop.jobs stop slots s.duty.watched
  | .select, .readable set => SelectLoop.jobs set s.stopNumber s.duty.watched
  | .epoll, .tokens tokens => EpollLoop.jobs tokens s.duty.watched
  | _, _ => []

def wait (s : LoopRun) (result : Except Failure WaitReport) : LoopRun :=
  if s.idle then
    match result with
    | .ok report => { s with todo := s.jobs report }
    | .error f =>
      if (retryWait s.mechanism.name f).1 then s
      else { s with ending := .broken, failure := some f }
  else s

def perform (s : LoopRun) (job : Job) (rest : List Job) : LoopRun :=
  let (verdict, duty) := s.duty.perform job
  { s with
    duty
    todo := rest
    ending := verdict.ending
    heard := s.heard || s.duty.stopTaken duty }

def work (s : LoopRun) : LoopRun :=
  match s.ending, s.todo with
  | .waiting, job :: rest => s.perform job rest
  | _, _ => s

def workAll (s : LoopRun) : Nat → LoopRun
  | 0 => s
  | n + 1 => s.work.workAll n

theorem work_of_ended {s : LoopRun} (hended : s.ending ≠ .waiting) : s.work = s := by
  unfold work
  split
  · rename_i hwaiting _
    exact absurd hwaiting hended
  · rfl

theorem workAll_of_ended {s : LoopRun} (hended : s.ending ≠ .waiting) (n : Nat) :
    s.workAll n = s := by
  induction n with
  | zero => rfl
  | succ n ih => rw [workAll, work_of_ended hended, ih]

theorem workAll_todo (s : LoopRun) (hwaiting : s.ending = .waiting) :
    (s.workAll s.todo.length).duty = (s.duty.performAll s.todo).2 ∧
      (s.workAll s.todo.length).ending = (s.duty.performAll s.todo).1.ending := by
  induction htodo : s.todo generalizing s with
  | nil => exact ⟨rfl, hwaiting⟩
  | cons job rest ih =>
    have hwork : s.work = s.perform job rest := by
      simp only [work, hwaiting, htodo]
    obtain ⟨verdict, duty, hperform⟩ : ∃ verdict duty, s.duty.perform job = (verdict, duty) :=
      ⟨_, _, rfl⟩
    have hduty : (s.perform job rest).duty = duty := by
      simp only [perform, hperform]
    have hending : (s.perform job rest).ending = verdict.ending := by
      simp only [perform, hperform]
    rw [List.length_cons, workAll, hwork, Duty.performAll, hperform]
    cases verdict with
    | goOn =>
      obtain ⟨hallDuty, hallEnding⟩ := ih (s.perform job rest) hending rfl
      rw [hallDuty, hallEnding, hduty]
      exact ⟨rfl, rfl⟩
    | exit =>
      rw [workAll_of_ended (by rw [hending]; exact ServiceEnd.noConfusion)]
      exact ⟨hduty, hending⟩
    | collapse r =>
      rw [workAll_of_ended (by rw [hending]; exact ServiceEnd.noConfusion)]
      exact ⟨hduty, hending⟩

-- What the worker's own loop makes of a report.
def wake (s : LoopRun) (report : WaitReport) : Verdict × Duty :=
  match s.mechanism, report with
  | .poll, .slots stop slots => PollLoop.wake stop slots s.duty
  | .select, .readable set => SelectLoop.wake set s.stopNumber s.duty
  | .epoll, .tokens tokens => EpollLoop.wake tokens s.duty
  | _, _ => (.goOn, s.duty)

theorem performAll_jobs (s : LoopRun) (report : WaitReport) :
    s.duty.performAll (s.jobs report) = s.wake report := by
  unfold jobs wake
  split
  · exact (PollLoop.wake_eq_performAll _ _ _).symm
  · exact (SelectLoop.wake_eq_performAll _ _ _).symm
  · exact (EpollLoop.wake_eq_performAll _ _).symm
  · rfl

/-- **Job after job, a wake-up comes to what the worker's own loop makes of it.** -/
theorem workAll_wait (s : LoopRun) (hidle : s.idle = true) (report : WaitReport) :
    let woken := s.wait (.ok report)
    (woken.workAll woken.todo.length).duty = (s.wake report).2 ∧
      (woken.workAll woken.todo.length).ending = (s.wake report).1.ending := by
  intro woken
  have hwoken : woken = { s with todo := s.jobs report } := if_pos hidle
  have hwaiting : woken.ending = .waiting := by
    rw [hwoken]
    exact (idle_iff.mp hidle).1
  have hall := woken.workAll_todo hwaiting
  have hperform : woken.duty.performAll woken.todo = s.wake report := by
    rw [hwoken]
    exact s.performAll_jobs report
  rw [hperform] at hall
  exact hall

end LoopRun

/-! ## What can be waited for -/

/-- Whether a read on a pair would return at once. -/
def Duty.isReadable (d : Duty) (pair : Nat) : Bool :=
  match d.sockets[pair]? with
  | some p => p.requests.isReadable
  | none => false

/-- Whether there is something to read at this number: at the stop request, or at a watched pair. -/
def LoopRun.isReadableAt (s : LoopRun) (number : Nat) : Bool :=
  number = s.stopNumber && s.duty.stop.isReadable ||
    s.duty.watched.any fun w => w.number = number && s.duty.isReadable w.pair

/-- The numbers at which the kernel looks in a wait, by what the worker hands to it. -/
def LoopRun.interest (s : LoopRun) : List Nat :=
  match s.mechanism with
  | .poll =>
    ((PollLoop.interest s.stopNumber s.duty.watched).filter (·.events = PollSlot.readEvent)).map
      (·.number.toNat)
  | .select =>
    (List.range (SelectLoop.scanBound s.stopNumber s.duty.watched)).filter
      (SelectLoop.interest s.stopNumber s.duty.watched).contains
  | .epoll => (EpollLoop.interest s.stopNumber s.duty.watched).map Prod.snd
  | .ioUring | .threads => []

theorem EpollLoop.numbers_interest (stopNumber : Nat) (watched : List Watched) :
    (interest stopNumber watched).map Prod.snd = watched.map Watched.number ++ [stopNumber] := by
  rw [interest, List.map_append]
  congr 1
  apply List.ext_getElem <;> simp

/-- The worker waits with one of the calls that are told what to look at, and what it watches fits
into its set if it has one. -/
structure LoopRun.IsFit (s : LoopRun) : Prop where
  loops : s.mechanism = .poll ∨ s.mechanism = .select ∨ s.mechanism = .epoll
  below : s.mechanism = .select →
    ∀ n ∈ s.stopNumber :: s.duty.watched.map Watched.number, n < selectCapacity

/-- **The kernel looks at the stop request and at all watched pairs**, and nowhere else. -/
theorem LoopRun.IsFit.mem_interest {s : LoopRun} (h : s.IsFit) {n : Nat} :
    n ∈ s.interest ↔ n = s.stopNumber ∨ ∃ w ∈ s.duty.watched, w.number = n := by
  have hnumbers : n ∈ s.stopNumber :: s.duty.watched.map Watched.number ↔
      n = s.stopNumber ∨ ∃ w ∈ s.duty.watched, w.number = n := by
    rw [List.mem_cons, List.mem_map]
  rw [← hnumbers, interest]
  rcases h.loops with hm | hm | hm <;> rw [hm]
  · simp [PollLoop.interest, PollSlot.fresh, List.filter_map, Function.comp_def]
  · have hset := DescriptorSet.contains_ofList (h.below hm) (n := n)
    show n ∈ (List.range _).filter (DescriptorSet.ofList _).contains ↔ _
    rw [List.mem_filter, List.mem_range, hset, and_iff_right_iff_imp]
    intro hn
    apply DescriptorSet.lt_bound
    rw [List.mem_append, List.mem_singleton, or_comm]
    exact List.mem_cons.mp hn
  · show n ∈ (EpollLoop.interest _ _).map Prod.snd ↔ _
    rw [EpollLoop.numbers_interest, List.mem_append, List.mem_singleton, List.mem_cons, or_comm]

/-- Whether the kernel would answer a request for this token at once. -/
def RingRun.isReady (s : RingRun) (token : UInt64) : Bool :=
  if token = stopToken then s.worker.duty.stop.isReadable
  else
    match s.worker.duty.watched[token.toNat]? with
    | some w => s.worker.duty.isReadable w.pair
    | none => false

/-- A worker that its owner asks to stop by a stop request. -/
inductive Body where
  | loop (s : LoopRun)
  | ring (s : RingRun)

namespace Body

def duty : Body → Duty
  | .loop s => s.duty
  | .ring s => s.worker.duty

def ending : Body → ServiceEnd
  | .loop s => s.ending
  | .ring s => s.ending

def heard : Body → Bool
  | .loop s => s.heard
  | .ring s => s.heard

def failure : Body → Option Failure
  | .loop s => s.failure
  | .ring s => s.failure

def idle : Body → Bool
  | .loop s => s.idle
  | .ring s => s.idle

theorem ending_of_idle {b : Body} (h : b.idle = true) : b.ending = .waiting := by
  cases b with
  | loop s => exact (LoopRun.idle_iff.mp h).1
  | ring s => exact (RingRun.idle_iff.mp h).1

/-- The answers that the worker has handled; only a ring brings answers. -/
def handled : Body → List (UInt64 × Int32)
  | .loop _ => []
  | .ring s => s.handled

def unarmed : Body → List UInt64
  | .loop _ => []
  | .ring s => s.unarmed

def withDuty (b : Body) (d : Duty) : Body :=
  match b with
  | .loop s => .loop { s with duty := d }
  | .ring s => .ring (s.withDuty d)

-- A wait that fails so is not repeated.
def Fatal : Body → Failure → Prop
  | .loop _, f => f.isInterruption = false
  | .ring _, f => f.isInterruption = false ∧ f.errno? ≠ some Errno.busy

/-- Whether a wait that begins now can block: whether there is nothing to read where the kernel
looks, as `mayBlock_loop_iff` says. With a ring, a wait blocks only after the whole queue has been
handed over. -/
def mayBlock : Body → Bool
  | .loop s => !s.duty.stop.isReadable && s.duty.watched.all (!s.duty.isReadable ·.pair)
  | .ring s => s.completed.isEmpty && s.worker.ring.known.all (!s.isReady ·.token)

/-- A wait blocks exactly if there is nothing to read at any number that the kernel is told. -/
theorem mayBlock_loop_iff {s : LoopRun} (h : s.IsFit) :
    (loop s).mayBlock = true ↔ ∀ n ∈ s.interest, s.isReadableAt n = false := by
  have hreadable : (loop s).mayBlock = true ↔
      s.duty.stop.isReadable = false ∧ ∀ w ∈ s.duty.watched, s.duty.isReadable w.pair = false := by
    simp [mayBlock]
  rw [hreadable]
  constructor
  · rintro ⟨hstop, hpairs⟩ n -
    simp only [LoopRun.isReadableAt, hstop, Bool.and_false, Bool.false_or, List.any_eq_false,
      Bool.and_eq_true, not_and]
    intro w hw _
    simp [hpairs w hw]
  · intro hnone
    refine ⟨?_, fun w hw => ?_⟩
    · have hat := hnone s.stopNumber (h.mem_interest.mpr (Or.inl rfl))
      simpa [LoopRun.isReadableAt] using (Bool.or_eq_false_iff.mp hat).1
    · have hat := hnone w.number (h.mem_interest.mpr (Or.inr ⟨w, hw, rfl⟩))
      have hpair := List.any_eq_false.mp (Bool.or_eq_false_iff.mp hat).2 w hw
      simpa using hpair

inductive Turn where
  | wait (result : Except Failure WaitReport)
  | work
  | submit (h : Handover)
  | fetch (failure : Option Failure)
  | handle (h : Handover)

def act (b : Body) (x : Turn) : Body :=
  match b, x with
  | .loop s, .wait result => .loop (s.wait result)
  | .loop s, .work => .loop s.work
  | .ring s, .submit h => .ring (s.submit h)
  | .ring s, .fetch failure => .ring (s.fetch failure)
  | .ring s, .handle h => .ring (s.handleNext h)
  | b, _ => b

/-- The kernel answers a request. The least 32-bit number is no answer. -/
def answer (b : Body) (token : UInt64) (result : Int32) : Body :=
  match b with
  | .loop s => .loop s
  | .ring s => if result = Int32.minValue then .ring s else .ring (s.answer token result)

end Body

/-! ## From start to join -/

inductive Owner where
  /-- Waits until the worker is ready. -/
  | starting
  | holding
  /-- Has asked the worker to stop and waits until it has ended. -/
  | joining
  | joined
  deriving DecidableEq, Repr

def Owner.hasRaised : Owner → Bool
  | .starting | .holding => false
  | .joining | .joined => true

structure Tenure where
  body : Body
  owner : Owner := .starting
  /-- The worker has said that it is ready. -/
  ready : Bool := false

namespace Tenure

inductive Move where
  | ready
  | start
  | raise
  | join
  | turn (x : Body.Turn)
  | answer (token : UInt64) (result : Int32)
  /-- Others have worked on the sockets. -/
  | traffic (sockets : Array SocketPair)

/-- One move. What cannot happen changes nothing. -/
def step (t : Tenure) : Move → Tenure
  | .ready => { t with ready := true }
  | .start => if t.owner = .starting ∧ t.ready then { t with owner := .holding } else t
  | .raise =>
    if t.owner = .holding then
      { t with
        owner := .joining
        body := t.body.withDuty { t.body.duty with stop := t.body.duty.stop.raise } }
    else t
  | .join =>
    if t.owner = .joining ∧ t.body.ending ≠ .waiting then { t with owner := .joined } else t
  | .turn x => if t.ready then { t with body := t.body.act x } else t
  | .answer token result => { t with body := t.body.answer token result }
  | .traffic sockets => { t with body := t.body.withDuty { t.body.duty with sockets } }

def run (t : Tenure) (moves : List Move) : Tenure := moves.foldl step t

end Tenure

end ReadinessBench

import ReadinessBench.Proofs.Watch.Work

/-!
# A wake-up as a list of jobs

A wake-up with poll, select or epoll is a list of jobs that are done one after another: to look
after the stop request, or to echo on a pair. What the wait reports decides which jobs there are. A
stop request that is found ends the worker, whatever is left on the list.
-/

namespace ReadinessBench

inductive Job where
  | acknowledge
  | echo (pair : Nat)
  deriving DecidableEq, Repr

namespace Duty

def perform (d : Duty) : Job → Verdict × Duty
  | .acknowledge =>
    let (raised, d) := d.acknowledge
    (if raised then .exit else .goOn, d)
  | .echo pair => (.goOn, d.echo pair)

/-- Performs one job after the other until one of them ends the worker. -/
def performAll (d : Duty) : List Job → Verdict × Duty
  | [] => (.goOn, d)
  | job :: rest =>
    match d.perform job with
    | (.goOn, d) => d.performAll rest
    | ended => ended

variable {d : Duty}

theorem watched_perform (d : Duty) (job : Job) : (d.perform job).2.watched = d.watched := by
  cases job with
  | acknowledge => rfl
  | echo pair => exact d.watched_echo pair

theorem performAll_echoes (d : Duty) (pairs : List Nat) :
    d.performAll (pairs.map .echo) = (.goOn, pairs.foldl Duty.echo d) := by
  induction pairs generalizing d with
  | nil => rfl
  | cons pair rest ih => exact ih (d.echo pair)

theorem performAll_acknowledge (d : Duty) (rest : List Job) :
    d.performAll (.acknowledge :: rest) =
      if d.acknowledge.1 then (.exit, d.acknowledge.2) else d.acknowledge.2.performAll rest := by
  cases hraised : d.acknowledge.1 with
  | true => simp only [performAll, perform, hraised, if_true]
  | false => simp only [performAll, perform, hraised, Bool.false_eq_true, if_false]

/-- The jobs of a worker that looks after the stop request before it echoes on these pairs. -/
def stopFirst (stopReadable : Bool) (pairs : List Nat) : List Job :=
  (if stopReadable then [.acknowledge] else []) ++ pairs.map .echo

theorem performAll_stopFirst (d : Duty) (stopReadable : Bool) (pairs : List Nat) :
    d.performAll (stopFirst stopReadable pairs) =
      let looked := if stopReadable then d.acknowledge else (false, d)
      if looked.1 then (.exit, looked.2) else (.goOn, pairs.foldl Duty.echo looked.2) := by
  cases stopReadable with
  | false => exact d.performAll_echoes pairs
  | true =>
    show d.performAll (.acknowledge :: pairs.map .echo) = _
    rw [performAll_acknowledge, performAll_echoes]
    rfl

end Duty

/-! ## What the loops do -/

namespace PollLoop

def jobs (stop : PollSlot) (slots : List PollSlot) (watched : List Watched) : List Job :=
  Duty.stopFirst stop.isReadable
    (((slots.zip watched).filter (·.1.isReadable)).map (·.2.pair))

theorem wake_eq_performAll (stop : PollSlot) (slots : List PollSlot) (d : Duty) :
    wake stop slots d = d.performAll (jobs stop slots d.watched) := by
  rw [jobs, Duty.performAll_stopFirst]
  simp only [List.foldl_map, List.foldl_filter]
  unfold wake
  cases stop.isReadable with
  | false => rfl
  | true => rfl

end PollLoop

namespace SelectLoop

def jobs (readable : DescriptorSet) (stopNumber : Nat) (watched : List Watched) : List Job :=
  Duty.stopFirst (readable.contains stopNumber)
    ((watched.filter (readable.contains ·.number)).map Watched.pair)

theorem wake_eq_performAll (readable : DescriptorSet) (stopNumber : Nat) (d : Duty) :
    wake readable stopNumber d = d.performAll (jobs readable stopNumber d.watched) := by
  rw [jobs, Duty.performAll_stopFirst]
  simp only [List.foldl_map, List.foldl_filter]
  unfold wake
  cases readable.contains stopNumber with
  | false => rfl
  | true => rfl

end SelectLoop

namespace EpollLoop

def jobs (tokens : List UInt64) (watched : List Watched) : List Job :=
  tokens.filterMap fun token =>
    if token = stopToken then some .acknowledge
    else watched[token.toNat]?.map (.echo ·.pair)

theorem wake_eq_performAll (tokens : List UInt64) (d : Duty) :
    wake tokens d = d.performAll (jobs tokens d.watched) := by
  induction tokens generalizing d with
  | nil => rfl
  | cons token rest ih =>
    have hrest : ∀ e : Duty, e.watched = d.watched →
        wake rest e = e.performAll (jobs rest d.watched) := by
      intro e he
      rw [ih e, he]
    rw [wake, jobs, List.filterMap_cons]
    by_cases htoken : token = stopToken
    · simp only [if_pos htoken, Duty.performAll, Duty.perform]
      obtain ⟨raised, e, hack⟩ : ∃ raised e, d.acknowledge = (raised, e) := ⟨_, _, rfl⟩
      have he : e.watched = d.watched := by
        have hsame := d.watched_perform .acknowledge
        rw [Duty.perform, hack] at hsame
        exact hsame
      rw [hack]
      cases raised with
      | true => rfl
      | false => exact hrest e he
    · rw [if_neg htoken, if_neg htoken]
      cases d.watched[token.toNat]? with
      | none => exact hrest d rfl
      | some w => exact hrest (d.echo w.pair) (d.watched_perform (.echo w.pair))

end EpollLoop

end ReadinessBench

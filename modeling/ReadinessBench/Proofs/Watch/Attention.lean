import ReadinessBench.Proofs.Ring.Run

/-!
# One worker behind four loops

A wake-up says something in each of its slots, events or answers: that there is something to read
on a watched pair, that there is a stop request, or nothing that matters. A worker attends to these
notices in order, and with poll, select, epoll and a ring it is the same worker. Pairs are told
apart by their position, because a pair may be watched twice.
-/

namespace ReadinessBench

/-- What one slot, event or answer says to a worker. -/
inductive Notice where
  | readable (position : Nat)
  | stop
  /-- The request for the stop counter has failed for good. -/
  | deaf
  /-- An answer that is no answer. -/
  | garbled
  | nothing
  deriving DecidableEq

namespace Duty

def echoAt (d : Duty) (position : Nat) : Duty :=
  match d.watched[position]? with
  | some w => d.echo w.pair
  | none => d

def echoAll (d : Duty) (positions : List Nat) : Duty := positions.foldl echoAt d

/-- The worker behind all loops: it attends to one notice after the other, until one of them ends
it. -/
def attend (d : Duty) : List Notice → Verdict × Duty
  | [] => (.goOn, d)
  | .readable i :: rest => (d.echoAt i).attend rest
  | .stop :: rest =>
    match d.acknowledge with
    | (true, d) => (.exit, d)
    | (false, d) => d.attend rest
  | .deaf :: _ => (.exit, d)
  | .garbled :: _ => (.collapse .negationOverflow, d)
  | .nothing :: rest => d.attend rest

theorem acknowledge_fst (d : Duty) : d.acknowledge.1 = d.stop.isReadable := by
  rcases d.acknowledge_cases with ⟨hraised, hack⟩ | ⟨hraised, hack⟩
  · rw [hack, hraised]
  · rw [hack, hraised]

theorem watched_echoAt (d : Duty) (i : Nat) : (d.echoAt i).watched = d.watched := by
  unfold echoAt
  split
  · exact d.watched_echo _
  · rfl

theorem stop_echoAt (d : Duty) (i : Nat) : (d.echoAt i).stop = d.stop := by
  unfold echoAt
  split
  · exact d.stop_echo _
  · rfl

end Duty

namespace Notice

def position? : Notice → Option Nat
  | readable i => some i
  | _ => none

/-- The positions that are reported readable, one for each report. -/
def positions (notices : List Notice) : List Nat := notices.filterMap position?

-- The notice ends a worker whose duty is this.
def ends (d : Duty) : Notice → Bool
  | stop => d.stop.isReadable
  | deaf | garbled => true
  | readable _ | nothing => false

theorem ends_congr {d e : Duty} (hstop : e.stop = d.stop) (n : Notice) : n.ends e = n.ends d := by
  cases n with
  | stop => simp only [ends, hstop]
  | _ => rfl

/-- The notices of slots that only say whether there is something to read, the first slot being that
of this position. -/
def ofFlags (first : Nat) : List Bool → List Notice
  | [] => []
  | flag :: rest => (if flag then readable first else nothing) :: ofFlags (first + 1) rest

end Notice

open Notice

namespace Duty

variable {d : Duty}

theorem attend_cons_of_not_ends {n : Notice} (hends : n.ends d = false) (rest : List Notice) :
    d.attend (n :: rest) = (d.echoAll (positions [n])).attend rest := by
  cases n with
  | readable i => rfl
  | nothing => rfl
  | stop =>
    rcases d.acknowledge_cases with ⟨hraised, -⟩ | ⟨-, hack⟩
    · rw [ends, hraised] at hends
      cases hends
    · rw [attend, hack]
      rfl
  | deaf | garbled => cases hends

theorem attend_cons_of_ends {n : Notice} (hends : n.ends d = true) (rest : List Notice) :
    d.attend (n :: rest) = d.attend [n] := by
  cases n with
  | stop =>
    rcases d.acknowledge_cases with ⟨-, hack⟩ | ⟨hnot, -⟩
    · rw [attend, attend, hack]
    · rw [ends, hnot] at hends
      cases hends
  | deaf | garbled => rfl
  | readable | nothing => cases hends

theorem attend_stop_of_readable (h : d.stop.isReadable = true) :
    d.attend [.stop] = (.exit, d.acknowledge.2) := by
  rcases d.acknowledge_cases with ⟨-, hack⟩ | ⟨hnot, -⟩
  · rw [attend, hack]
  · rw [h] at hnot
    cases hnot

theorem attend_cons (d : Duty) (n : Notice) (rest : List Notice) :
    d.attend (n :: rest) =
      match d.attend [n] with
      | (.goOn, e) => e.attend rest
      | ended => ended := by
  cases n with
  | readable i => rfl
  | nothing => rfl
  | deaf => rfl
  | garbled => rfl
  | stop =>
    rw [attend, attend]
    rcases d.acknowledge_cases with ⟨-, hack⟩ | ⟨-, hack⟩
    · rw [hack]
    · rw [hack]
      rfl

/-- Either no notice ends the worker, and it has echoed wherever there was something to read, or
the first one that does ends it after the echoes before it. -/
theorem attend_cases (d : Duty) (notices : List Notice) :
    (∀ n ∈ notices, n.ends d = false) ∧
        d.attend notices = (.goOn, d.echoAll (positions notices)) ∨
      ∃ before n after, notices = before ++ n :: after ∧ (∀ m ∈ before, m.ends d = false) ∧
        n.ends d = true ∧ d.attend notices = (d.echoAll (positions before)).attend [n] := by
  induction notices generalizing d with
  | nil => exact Or.inl ⟨nofun, rfl⟩
  | cons n rest ih =>
    cases hends : n.ends d with
    | true =>
      exact Or.inr ⟨[], n, rest, rfl, nofun, hends, attend_cons_of_ends hends rest⟩
    | false =>
      -- the notice may have caused an echo, after which the same notices end the worker
      have hstop : (d.echoAll (positions [n])).stop = d.stop := by
        cases n with
        | readable i => exact d.stop_echoAt i
        | _ => rfl
      have hall : ∀ ms : List Notice,
          (d.echoAll (positions [n])).echoAll (positions ms) = d.echoAll (positions (n :: ms)) := by
        intro ms
        rw [echoAll, echoAll, ← List.foldl_append]
        exact congrArg (List.foldl echoAt d) List.filterMap_append.symm
      rw [attend_cons_of_not_ends hends]
      rcases ih (d.echoAll (positions [n])) with
        ⟨hnone, hattend⟩ | ⟨before, m, after, hsplit, hnone, hlast, hattend⟩
      · refine Or.inl ⟨?_, by rw [hattend, hall]⟩
        intro m hm
        rcases List.mem_cons.mp hm with rfl | hm
        · exact hends
        · rw [← ends_congr hstop]
          exact hnone m hm
      · refine Or.inr ⟨n :: before, m, after, by rw [hsplit, List.cons_append], ?_, ?_, ?_⟩
        · intro m' hm'
          rcases List.mem_cons.mp hm' with rfl | hm'
          · exact hends
          · rw [← ends_congr hstop]
            exact hnone m' hm'
        · rw [← ends_congr hstop]
          exact hlast
        · rw [hattend, hall]

theorem stop_echoAll (d : Duty) (positions : List Nat) : (d.echoAll positions).stop = d.stop := by
  induction positions generalizing d with
  | nil => rfl
  | cons i rest ih => exact (ih (d.echoAt i)).trans (d.stop_echoAt i)

theorem attend_ofFlags (d : Duty) (first : Nat) (flags : List Bool) :
    d.attend (ofFlags first flags) =
      (.goOn, (flags.zip (d.watched.drop first)).foldl
        (fun d x => if x.1 then d.echo x.2.pair else d) d) := by
  -- the slots are gone through by position, the watched pairs by what is left of them
  induction flags generalizing d first with
  | nil => rfl
  | cons flag rest ih =>
    have hstep : d.attend (ofFlags first (flag :: rest)) =
        (if flag then d.echoAt first else d).attend (ofFlags (first + 1) rest) := by
      cases flag <;> rfl
    have hwatched : (if flag then d.echoAt first else d).watched = d.watched := by
      cases flag with
      | true => exact d.watched_echoAt first
      | false => rfl
    rw [hstep, ih, hwatched]
    cases hw : d.watched[first]? with
    | none =>
      have hle : d.watched.length ≤ first := List.getElem?_eq_none_iff.mp hw
      have hsame : (if flag then d.echoAt first else d) = d := by
        simp only [echoAt, hw, ite_self]
      rw [hsame, List.drop_eq_nil_of_le hle, List.drop_eq_nil_of_le (by omega), List.zip_nil_right,
        List.zip_nil_right]
    | some w =>
      rw [List.drop_eq_getElem?_toList_append (i := first), hw]
      simp only [echoAt, hw, Option.toList_some, List.singleton_append, List.zip_cons_cons,
        List.foldl_cons]

end Duty

/-! ## The notices of a wake-up -/

-- The positions of the slots that say there is something to read.
def flagged (flags : List Bool) : List Nat := (flags.zipIdx.filter Prod.fst).map Prod.snd

theorem positions_ofFlags (first : Nat) (flags : List Bool) :
    positions (ofFlags first flags) = ((flags.zipIdx first).filter Prod.fst).map Prod.snd := by
  induction flags generalizing first with
  | nil => rfl
  | cons flag rest ih =>
    rw [List.zipIdx_cons, ofFlags]
    cases flag with
    | true =>
      rw [List.filter_cons_of_pos rfl, List.map_cons, ← ih]
      rfl
    | false =>
      rw [List.filter_cons_of_neg Bool.false_ne_true, ← ih]
      rfl

theorem mem_ofFlags {n : Notice} {first : Nat} {flags : List Bool} (h : n ∈ ofFlags first flags) :
    n = .nothing ∨ ∃ i, n = .readable i := by
  induction flags generalizing first with
  | nil => cases h
  | cons flag rest ih =>
    rcases List.mem_cons.mp h with rfl | h
    · cases flag with
      | true => exact Or.inr ⟨first, rfl⟩
      | false => exact Or.inl rfl
    · exact ih h

namespace Duty

theorem attend_stopFirst (d : Duty) (raised : Bool) (flags : List Bool) :
    d.attend ((if raised then .stop else .nothing) :: ofFlags 0 flags) =
      let looked := if raised then d.acknowledge else (false, d)
      if looked.1 then (.exit, looked.2)
      else (.goOn, (flags.zip d.watched).foldl
        (fun e x => if x.1 then e.echo x.2.pair else e) looked.2) := by
  have hslots : ∀ e : Duty, e.attend (ofFlags 0 flags) = (.goOn, (flags.zip e.watched).foldl
      (fun e x => if x.1 then e.echo x.2.pair else e) e) := by
    intro e
    rw [e.attend_ofFlags, List.drop_zero]
  cases raised with
  | false => exact hslots d
  | true =>
    rcases d.acknowledge_cases with ⟨-, hack⟩ | ⟨-, hack⟩
    · simp only [if_true, attend, hack]
    · simp only [if_true, attend, hack, Bool.false_eq_true, if_false]
      exact hslots d

end Duty

namespace PollLoop

def notices (stop : PollSlot) (slots : List PollSlot) : List Notice :=
  (if stop.isReadable then .stop else .nothing) :: ofFlags 0 (slots.map PollSlot.isReadable)

theorem wake_eq_attend (stop : PollSlot) (slots : List PollSlot) (d : Duty) :
    wake stop slots d = d.attend (notices stop slots) := by
  rw [notices, d.attend_stopFirst, List.zip_map_left]
  simp only [List.foldl_map]
  unfold wake
  cases stop.isReadable <;> rfl

end PollLoop

namespace SelectLoop

def notices (readable : DescriptorSet) (stopNumber : Nat) (watched : List Watched) : List Notice :=
  (if readable.contains stopNumber then .stop else .nothing) ::
    ofFlags 0 (watched.map (readable.contains ·.number))

theorem wake_eq_attend (readable : DescriptorSet) (stopNumber : Nat) (d : Duty) :
    wake readable stopNumber d = d.attend (notices readable stopNumber d.watched) := by
  rw [notices, d.attend_stopFirst, ← List.map_prod_right_eq_zip]
  simp only [List.foldl_map]
  unfold wake
  cases readable.contains stopNumber <;> rfl

end SelectLoop

namespace EpollLoop

def notice (count : Nat) (token : UInt64) : Notice :=
  if token = stopToken then .stop
  else if token.toNat < count then .readable token.toNat else .nothing

theorem wake_eq_attend (tokens : List UInt64) (d : Duty) :
    wake tokens d = d.attend (tokens.map (notice d.watched.length)) := by
  induction tokens generalizing d with
  | nil => rfl
  | cons token rest ih =>
    rw [wake, List.map_cons, notice]
    by_cases htoken : token = stopToken
    · rw [if_pos htoken, if_pos htoken, Duty.attend]
      rcases d.acknowledge_cases with ⟨-, hack⟩ | ⟨-, hack⟩
      · rw [hack]
      · rw [hack]
        exact ih d
    · rw [if_neg htoken, if_neg htoken]
      by_cases hcount : token.toNat < d.watched.length
      · have hw := List.getElem?_eq_getElem hcount
        rw [if_pos hcount, hw, Duty.attend, Duty.echoAt, hw]
        show wake rest (d.echo _) = _
        rw [ih, d.watched_echo]
      · rw [if_neg hcount, List.getElem?_eq_none_iff.mpr (Nat.le_of_not_lt hcount)]
        exact ih d

end EpollLoop

namespace RingWorker

def notice (count : Nat) (token : UInt64) (result : Int32) : Notice :=
  if token = stopToken ∨ token.toNat < count then
    if result = Int32.minValue then .garbled
    else if 0 ≤ result.toInt then if token = stopToken then .stop else .readable token.toNat
    else if token = stopToken ∧ FailsForGood result then .deaf
    else .nothing
  else .nothing

theorem numberOf?_eq_none_iff (w : RingWorker) (token : UInt64) :
    w.numberOf? token = none ↔ ¬ (token = stopToken ∨ token.toNat < w.duty.watched.length) := by
  unfold numberOf?
  by_cases htoken : token = stopToken
  · simp [htoken]
  · simp [htoken]

theorem settle_ok (w : RingWorker) (token : UInt64) (number : Nat) (h : Handover)
    (hknown : token = stopToken ∨ token.toNat < w.duty.watched.length) :
    ((w.settle token number h (.ok ())).1, (w.settle token number h (.ok ())).2.2.duty) =
      w.duty.attend [if token = stopToken then .stop else .readable token.toNat] := by
  rw [settle, handle]
  by_cases htoken : token = stopToken
  · rw [if_pos htoken, if_pos htoken, Duty.attend]
    rcases w.duty.acknowledge_cases with ⟨-, hack⟩ | ⟨-, hack⟩
    · rw [hack]
    · rw [hack]
      exact congrArg _ (duty_rearm _ _ h)
  · have hw := List.getElem?_eq_getElem (hknown.resolve_left htoken)
    rw [if_neg htoken, if_neg htoken, Duty.attend, Duty.echoAt, hw]
    exact congrArg _ (duty_rearm _ _ h)

theorem complete_eq_attend (w : RingWorker) (token : UInt64) (result : Int32) (h : Handover) :
    ((w.complete token result h).1, (w.complete token result h).2.2.duty) =
      w.duty.attend [notice w.duty.watched.length token result] := by
  unfold complete notice
  cases hnumber : w.numberOf? token with
  | none =>
    rw [if_neg ((w.numberOf?_eq_none_iff token).mp hnumber)]
    rfl
  | some number =>
    have hknown : token = stopToken ∨ token.toNat < w.duty.watched.length := by
      refine Decidable.byContradiction fun hnone => ?_
      rw [(w.numberOf?_eq_none_iff token).mpr hnone] at hnumber
      cases hnumber
    rw [if_pos hknown]
    by_cases hleast : result = Int32.minValue
    · simp only [outcome, if_pos hleast]
      rfl
    · rw [if_neg hleast]
      by_cases hneg : result.toInt < 0
      · rw [outcome_of_neg hleast hneg, if_neg (Int.not_le.mpr hneg)]
        simp only [settle]
        by_cases hgood : FailsForGood result
        · rw [if_neg fun htransient => (isTransient_errno_iff hneg).mp htransient hgood]
          by_cases htoken : token = stopToken
          · rw [if_pos htoken, if_pos ⟨htoken, hgood⟩]
            rfl
          · rw [if_neg htoken, if_neg fun hboth => htoken hboth.1]
            rfl
        · rw [if_pos ((isTransient_errno_iff hneg).mpr hgood),
            if_neg fun hboth => hgood hboth.2]
          exact congrArg _ (duty_rearm _ _ h)
      · rw [outcome_of_nonneg (Int.not_lt.mp hneg), if_pos (Int.not_lt.mp hneg)]
        exact w.settle_ok token number h hknown

/-- The worker's loop over a batch, where handing over the queue turns out differently from answer
to answer. -/
def wakeEach (w : RingWorker) :
    List ((UInt64 × Int32) × Handover) → Verdict × List Event × RingWorker
  | [] => (.goOn, [], w)
  | ((token, result), h) :: rest =>
    match w.complete token result h with
    | (.goOn, events, w) =>
      let (verdict, more, w) := w.wakeEach rest
      (verdict, events ++ more, w)
    | ended => ended

theorem wake_eq_wakeEach (w : RingWorker) (h : Handover) (answers : List (UInt64 × Int32)) :
    w.wake h answers = w.wakeEach (answers.map (·, h)) := by
  induction answers generalizing w with
  | nil => rfl
  | cons answer rest ih =>
    obtain ⟨verdict, events, w', hcomplete⟩ : ∃ verdict events w',
        w.complete answer.1 answer.2 h = (verdict, events, w') := ⟨_, _, _, rfl⟩
    cases verdict with
    | goOn => simp only [wake, List.map_cons, wakeEach, hcomplete, ih]
    | exit => simp only [wake, List.map_cons, wakeEach, hcomplete]
    | collapse r => simp only [wake, List.map_cons, wakeEach, hcomplete]

theorem wakeEach_eq_attend (w : RingWorker) (answers : List ((UInt64 × Int32) × Handover)) :
    ((w.wakeEach answers).1, (w.wakeEach answers).2.2.duty) =
      w.duty.attend ((answers.map Prod.fst).map fun a =>
        notice w.duty.watched.length a.1 a.2) := by
  induction answers generalizing w with
  | nil => rfl
  | cons answer rest ih =>
    obtain ⟨⟨token, result⟩, h⟩ := answer
    have hfirst := w.complete_eq_attend token result h
    have hwatched := (w.complete_work token result h).watched_eq
    rw [wakeEach, List.map_cons, List.map_cons, Duty.attend_cons, ← hfirst]
    obtain ⟨verdict, events, w', hcomplete⟩ : ∃ verdict events w',
        w.complete token result h = (verdict, events, w') := ⟨_, _, _, rfl⟩
    rw [hcomplete] at hwatched ⊢
    cases verdict with
    | goOn =>
      have hrest := ih w'
      rw [hwatched] at hrest
      exact hrest
    | exit => rfl
    | collapse r => rfl

end RingWorker

end ReadinessBench

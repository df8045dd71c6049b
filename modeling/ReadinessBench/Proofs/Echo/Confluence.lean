import Mathlib.Algebra.BigOperators.Group.List.Basic
import Mathlib.Algebra.GroupWithZero.Nat
import ReadinessBench.Proofs.Echo.Room
import ReadinessBench.Proofs.Watch.Work

/-!
# Whoever echoes, the outcome is the same

Any number of echoers watch any pairs, each with a buffer of its own size, and take echo steps in
any order. Each step that echoes something leaves less to be echoed, so there is an end. What the
steps pass on is written down for each pair (`Crowd.passed_run`); unless a reply was cut for want of
memory, it is everything, and so all schedules that leave nothing to echo end alike. Main statement:
`settling_run`.
-/

namespace ReadinessBench

/-- What can be read from a pair, and what is open. -/
structure Contents where
  requests : Bytes
  requestsOpen : Bool
  replies : Bytes
  repliesOpen : Bool
  blocking : Bool
  deriving DecidableEq

/-- What it comes to when all requests have been echoed. -/
def Contents.drained (x : Contents) : Contents :=
  { x with
    requests := []
    replies := if x.repliesOpen then x.replies ++ x.requests else x.replies }

namespace SocketPair

def contents (p : SocketPair) : Contents where
  requests := p.requests.waiting
  requestsOpen := p.requests.isOpen
  replies := p.replies.waiting
  repliesOpen := p.replies.isOpen
  blocking := p.blocking

namespace Passed

variable {p q : SocketPair} {rs : List Reply}

/-- Nothing comes in for replies that nobody could read. -/
theorem isWhole_of_closed (h : p.Passed q rs) (hclosed : p.replies.isOpen = false) :
    ∀ r ∈ rs, r.IsWhole := by
  intro r hr hopen
  rw [h.isOpen r hr, hclosed] at hopen
  cases hopen

/-- **When nothing is left, the pair is what it was bound to come to, unless a reply was cut.** -/
theorem contents_iff (h : p.Passed q rs) (hdone : q.requests.waiting = []) :
    q.contents = p.contents.drained ↔ ∀ r ∈ rs, r.IsWhole := by
  have hdata : rs.flatMap Reply.data = p.requests.waiting := by
    rw [h.requests, hdone, List.append_nil]
  have hsame : q.contents = p.contents.drained ↔
      rs.flatMap Reply.kept = if p.replies.isOpen then rs.flatMap Reply.data else [] := by
    have hreplies : p.contents.drained.replies = p.replies.waiting ++
        if p.replies.isOpen then rs.flatMap Reply.data else [] := by
      rw [hdata]
      show (if p.replies.isOpen then _ else _) = _
      split
      · rfl
      · exact (List.append_nil _).symm
    rw [← List.append_right_inj p.replies.waiting, ← h.replies, ← hreplies]
    refine ⟨congrArg Contents.replies, fun hback => ?_⟩
    rw [contents, hdone, h.requestsOpen, h.repliesOpen, h.blocking, hback]
    rfl
  rw [hsame]
  cases hopen : p.replies.isOpen with
  | false =>
    refine iff_of_true ?_ (h.isWhole_of_closed hopen)
    rw [if_neg Bool.false_ne_true, List.flatMap_eq_nil_iff]
    intro r hr
    rw [Reply.kept, h.closed r hr ((h.isOpen r hr).trans hopen), List.take_zero]
  | true =>
    rw [if_pos rfl]
    refine ⟨fun hall r hr _ => ?_, fun hwhole => ?_⟩
    · have htaken := Reply.taken_eq_of_length (Nat.le_of_eq (congrArg List.length hall.symm)) r hr
      exact Nat.le_antisymm (h.taken_le r hr) htaken
    · exact Reply.flatMap_kept_of_isWhole (fun r hr => (h.isOpen r hr).trans hopen) hwhole

end Passed

end SocketPair

def contentsOf (sockets : Array SocketPair) : List Contents :=
  sockets.toList.map SocketPair.contents

/-- How many bytes are still to be echoed. -/
def bytesToEcho (sockets : Array SocketPair) : Nat :=
  (sockets.toList.map fun p => p.requests.waiting.length).sum

theorem bytesToEcho_set {sockets : Array SocketPair} {pair : Nat} {p : SocketPair}
    (hp : sockets[pair]? = some p) (q : SocketPair) :
    bytesToEcho (sockets.setIfInBounds pair q) + p.requests.waiting.length =
      bytesToEcho sockets + q.requests.waiting.length := by
  let lengths := sockets.toList.map fun p => p.requests.waiting.length
  obtain ⟨hlt, hget⟩ := Array.getElem?_eq_some_iff.mp hp
  have hlength : pair < lengths.length := by simpa [lengths] using hlt
  have hself : lengths.set pair p.requests.waiting.length = lengths := by
    have hat : lengths[pair] = p.requests.waiting.length := by simp [lengths, hget]
    rw [← hat, List.set_getElem_self]
  have hset : bytesToEcho (sockets.setIfInBounds pair q) =
      (lengths.set pair q.requests.waiting.length).sum := by
    simp [bytesToEcho, lengths, List.map_set]
  have hbefore : bytesToEcho sockets = (lengths.set pair p.requests.waiting.length).sum := by
    rw [hself]
    rfl
  rw [hset, hbefore, List.sum_set, List.sum_set, if_pos hlength, if_pos hlength]
  omega

theorem bytesToEcho_eq_zero_iff {sockets : Array SocketPair} :
    bytesToEcho sockets = 0 ↔ ∀ p ∈ sockets, p.requests.waiting = [] := by
  simp [bytesToEcho, List.sum_eq_zero_iff_forall_eq_nat]

/-! ## Schedules of echo steps -/

/-- Somebody who echoes on the pairs at these positions. -/
structure Echoer where
  watched : List Nat
  buffer : Buffer

structure Crowd where
  sockets : Array SocketPair
  echoers : Array Echoer

namespace Crowd

/-- An echo step of one echoer on a pair that it watches: whether anything was echoed. -/
def echo (c : Crowd) (k pair : Nat) : Bool × Crowd :=
  match c.echoers[k]?, c.sockets[pair]? with
  | some e, some p =>
    if pair ∈ e.watched then
      let (echoed, buffer, p) := p.echo e.buffer
      (echoed, {
        sockets := c.sockets.setIfInBounds pair p
        echoers := c.echoers.setIfInBounds k { e with buffer } })
    else (false, c)
  | _, _ => (false, c)

-- A schedule says who echoes next, and where.
def run (c : Crowd) (schedule : List (Nat × Nat)) : Crowd :=
  schedule.foldl (fun c x => (c.echo x.1 x.2).2) c

/-- The write of an echo step, if it comes to one. -/
def written (c : Crowd) (k pair : Nat) : List Reply :=
  match c.echoers[k]?, c.sockets[pair]? with
  | some e, some p => if pair ∈ e.watched then p.repliesOf e.buffer.size else []
  | _, _ => []

/-- What is written to one pair under a schedule. -/
def repliesTo (c : Crowd) (pair : Nat) : List (Nat × Nat) → List Reply
  | [] => []
  | x :: rest =>
    (if x.2 = pair then c.written x.1 x.2 else []) ++ (c.echo x.1 x.2).2.repliesTo pair rest

/-- No reply is cut for want of memory. -/
def Uncut (c : Crowd) (schedule : List (Nat × Nat)) : Prop :=
  ∀ pair, ∀ r ∈ c.repliesTo pair schedule, r.IsWhole

/-- How many steps of the schedule echo something. -/
def productive (c : Crowd) : List (Nat × Nat) → Nat
  | [] => 0
  | x :: rest => (c.echo x.1 x.2).1.toNat + (c.echo x.1 x.2).2.productive rest

variable {c : Crowd}

theorem run_append (c : Crowd) (xs ys : List (Nat × Nat)) :
    c.run (xs ++ ys) = (c.run xs).run ys :=
  List.foldl_append

theorem echo_of_watched {k pair : Nat} {e : Echoer} {p : SocketPair}
    (he : c.echoers[k]? = some e) (hp : c.sockets[pair]? = some p) (hwatched : pair ∈ e.watched) :
    c.echo k pair = ((p.echo e.buffer).1, {
      sockets := c.sockets.setIfInBounds pair (p.afterEcho e.buffer.size)
      echoers := c.echoers.setIfInBounds k { e with buffer := (p.echo e.buffer).2.1 } }) := by
  simp only [echo, he, hp, if_pos hwatched, (p.echo_eq e.buffer).2.2]

theorem echo_cases (c : Crowd) (k pair : Nat) :
    c.echo k pair = (false, c) ∧ c.written k pair = [] ∨
      ∃ e p, c.echoers[k]? = some e ∧ c.sockets[pair]? = some p ∧ pair ∈ e.watched ∧
        c.echo k pair = ((p.echo e.buffer).1, {
          sockets := c.sockets.setIfInBounds pair (p.afterEcho e.buffer.size)
          echoers := c.echoers.setIfInBounds k { e with buffer := (p.echo e.buffer).2.1 } }) ∧
        c.written k pair = p.repliesOf e.buffer.size := by
  cases he : c.echoers[k]? with
  | none => exact Or.inl ⟨by rw [echo, he], by rw [written, he]⟩
  | some e =>
    cases hp : c.sockets[pair]? with
    | none => exact Or.inl ⟨by rw [echo, he, hp], by rw [written, he, hp]⟩
    | some p =>
      by_cases hwatched : pair ∈ e.watched
      · refine Or.inr ⟨e, p, rfl, rfl, hwatched, echo_of_watched he hp hwatched, ?_⟩
        simp only [written, he, hp, if_pos hwatched]
      · refine Or.inl ⟨?_, ?_⟩
        · simp only [echo, he, hp, if_neg hwatched]
        · simp only [written, he, hp, if_neg hwatched]

/-- One step passes on what it writes, on its pair, and nothing on the others. -/
theorem passed_echo (c : Crowd) (k pair : Nat) {i : Nat} {p : SocketPair}
    (hp : c.sockets[i]? = some p) :
    ∃ q, (c.echo k pair).2.sockets[i]? = some q ∧
      p.Passed q (if pair = i then c.written k pair else []) := by
  rcases c.echo_cases k pair with ⟨hecho, hwritten⟩ | ⟨e, p', -, hp', -, hecho, hwritten⟩
  · rw [hecho, hwritten, ite_self]
    exact ⟨p, hp, SocketPair.Passed.refl p⟩
  · rw [hecho, hwritten]
    dsimp only
    rw [Array.getElem?_setIfInBounds]
    by_cases hi : pair = i
    · subst hi
      rw [hp] at hp'
      cases hp'
      rw [if_pos rfl, if_pos rfl, if_pos (Array.getElem?_eq_some_iff.mp hp).1]
      exact ⟨_, rfl, p.passed_afterEcho e.buffer.size⟩
    · rw [if_neg hi, if_neg hi]
      exact ⟨p, hp, SocketPair.Passed.refl p⟩

/-- **Whatever the schedule, a pair passes on what is written to it.** -/
theorem passed_run (c : Crowd) (schedule : List (Nat × Nat)) {i : Nat} {p : SocketPair}
    (hp : c.sockets[i]? = some p) :
    ∃ q, (c.run schedule).sockets[i]? = some q ∧ p.Passed q (c.repliesTo i schedule) := by
  induction schedule generalizing c p with
  | nil => exact ⟨p, hp, SocketPair.Passed.refl p⟩
  | cons x rest ih =>
    obtain ⟨p', hp', hfirst⟩ := c.passed_echo x.1 x.2 hp
    obtain ⟨q, hq, hrest⟩ := ih (c.echo x.1 x.2).2 hp'
    exact ⟨q, hq, hfirst.trans hrest⟩

theorem size_run (c : Crowd) (schedule : List (Nat × Nat)) :
    (c.run schedule).sockets.size = c.sockets.size := by
  unfold run
  induction schedule generalizing c with
  | nil => rfl
  | cons x rest ih =>
    refine (ih (c.echo x.1 x.2).2).trans ?_
    rcases c.echo_cases x.1 x.2 with ⟨hecho, -⟩ | ⟨e, p, -, -, -, hecho, -⟩
    · rw [hecho]
    · rw [hecho]
      exact Array.size_setIfInBounds

/-- Nothing is written to a pair that does not exist. -/
theorem repliesTo_of_none {i : Nat} (hp : c.sockets[i]? = none) (schedule : List (Nat × Nat)) :
    c.repliesTo i schedule = [] := by
  induction schedule generalizing c with
  | nil => rfl
  | cons x rest ih =>
    rw [repliesTo]
    rcases c.echo_cases x.1 x.2 with ⟨hecho, hwritten⟩ | ⟨e, p, -, hp', -, hecho, -⟩
    · rw [hecho, hwritten, ite_self, ih hp]
      rfl
    · have hne : x.2 ≠ i := by
        intro hi
        rw [hi, hp] at hp'
        cases hp'
      rw [if_neg hne, hecho, ih ((Array.getElem?_setIfInBounds_ne hne).trans hp)]
      rfl

/-- With memory for all that waits, whoever echoes cuts nothing. -/
theorem repliesTo_of_roomy {i : Nat} {p : SocketPair} (hp : c.sockets[i]? = some p)
    (hroomy : p.Roomy) (schedule : List (Nat × Nat)) :
    ∀ r ∈ c.repliesTo i schedule, r.IsWhole := by
  induction schedule generalizing c p with
  | nil => nofun
  | cons x rest ih =>
    intro r hr
    -- memory for what waits is left by each step
    have hnext : (∀ r ∈ (if x.2 = i then c.written x.1 x.2 else []), r.IsWhole) ∧
        ∃ q, (c.echo x.1 x.2).2.sockets[i]? = some q ∧ q.Roomy := by
      rcases c.echo_cases x.1 x.2 with ⟨hecho, hwritten⟩ | ⟨e, p', -, hp', -, hecho, hwritten⟩
      · rw [hecho, hwritten, ite_self]
        exact ⟨nofun, p, hp, hroomy⟩
      · rw [hecho, hwritten]
        dsimp only
        rw [Array.getElem?_setIfInBounds]
        by_cases hi : x.2 = i
        · rw [hi, hp] at hp'
          cases hp'
          rw [if_pos hi, if_pos hi, if_pos (hi ▸ (Array.getElem?_eq_some_iff.mp hp).1)]
          exact ⟨fun r hr => hroomy.isWhole hr, _, rfl, hroomy.afterEcho _⟩
        · rw [if_neg hi, if_neg hi]
          exact ⟨nofun, p, hp, hroomy⟩
    obtain ⟨hwritten, q, hq, hleft⟩ := hnext
    exact (List.mem_append.mp hr).elim (hwritten r) (ih hq hleft r)

-- The measure: a step that echoes something leaves at least one byte less.
theorem bytesToEcho_echo (c : Crowd) (k pair : Nat) :
    (c.echo k pair).1.toNat + bytesToEcho (c.echo k pair).2.sockets ≤ bytesToEcho c.sockets := by
  rcases c.echo_cases k pair with ⟨hecho, -⟩ | ⟨e, p, -, hp, -, hecho, -⟩
  · rw [hecho]
    show 0 + bytesToEcho c.sockets ≤ _
    omega
  · have hset := bytesToEcho_set hp (p.afterEcho e.buffer.size)
    have hlength : (p.afterEcho e.buffer.size).requests.waiting.length =
        p.requests.waiting.length - e.buffer.size := List.length_drop
    rw [hecho]
    dsimp only
    cases hproductive : (p.echo e.buffer).1 with
    | false =>
      show 0 + _ ≤ _
      omega
    | true =>
      obtain ⟨hwaiting, hroom⟩ := (p.echo_true_iff e.buffer).mp hproductive
      have hpos := List.length_pos_iff.mpr hwaiting
      show 1 + _ ≤ _
      omega

theorem bytesToEcho_run (c : Crowd) (schedule : List (Nat × Nat)) :
    c.productive schedule + bytesToEcho (c.run schedule).sockets ≤ bytesToEcho c.sockets := by
  induction schedule generalizing c with
  | nil => exact Nat.le_of_eq (Nat.zero_add _)
  | cons x rest ih =>
    have hfirst := c.bytesToEcho_echo x.1 x.2
    have hrest := ih (c.echo x.1 x.2).2
    show (c.echo x.1 x.2).1.toNat + (c.echo x.1 x.2).2.productive rest +
      bytesToEcho ((c.echo x.1 x.2).2.run rest).sockets ≤ _
    omega

/-! ## Nothing is left over -/

/-- Where there is something to echo, somebody with room for it watches. -/
def Covered (c : Crowd) : Prop :=
  ∀ (pair : Nat) (p : SocketPair), c.sockets[pair]? = some p → p.requests.waiting ≠ [] →
    ∃ (k : Nat) (e : Echoer), c.echoers[k]? = some e ∧ pair ∈ e.watched ∧ 0 < e.buffer.size

theorem Covered.echo (h : c.Covered) (k pair : Nat) : (c.echo k pair).2.Covered := by
  rcases c.echo_cases k pair with ⟨hecho, -⟩ | ⟨e, p, he, hp, -, hecho, -⟩
  · rw [hecho]
    exact h
  · rw [hecho]
    intro i q hq hwaiting
    -- what still waits has waited before
    have hbefore : ∃ q₀, c.sockets[i]? = some q₀ ∧ q₀.requests.waiting ≠ [] := by
      rw [Array.getElem?_setIfInBounds] at hq
      split at hq
      · rename_i hi
        split at hq
        · cases hq
          refine ⟨p, hi ▸ hp, fun hnil => hwaiting ?_⟩
          show p.requests.waiting.drop e.buffer.size = []
          rw [hnil, List.drop_nil]
        · cases hq
      · exact ⟨q, hq, hwaiting⟩
    obtain ⟨q₀, hq₀, hwaiting₀⟩ := hbefore
    obtain ⟨j, e', he', hwatched, hroom⟩ := h i q₀ hq₀ hwaiting₀
    -- the echoer is still there, with a buffer of the same size
    by_cases hj : k = j
    · subst hj
      rw [he] at he'
      cases he'
      have hlt : k < c.echoers.size := (Array.getElem?_eq_some_iff.mp he).1
      refine ⟨k, { e with buffer := (p.echo e.buffer).2.1 }, ?_, hwatched, ?_⟩
      · exact Array.getElem?_setIfInBounds_self_of_lt hlt
      · rw [(p.echo_eq e.buffer).2.1]
        exact hroom
    · refine ⟨j, e', ?_, hwatched, hroom⟩
      exact (Array.getElem?_setIfInBounds_ne hj).trans he'

theorem Covered.run (h : c.Covered) (schedule : List (Nat × Nat)) : (c.run schedule).Covered := by
  unfold Crowd.run
  induction schedule generalizing c with
  | nil => exact h
  | cons x rest ih => exact ih (h.echo x.1 x.2)

theorem Covered.exists_productive (h : c.Covered) (hleft : bytesToEcho c.sockets ≠ 0) :
    ∃ k pair, (c.echo k pair).1 = true := by
  rw [Ne, bytesToEcho_eq_zero_iff] at hleft
  push Not at hleft
  obtain ⟨p, hmem, hwaiting⟩ := hleft
  obtain ⟨pair, hp⟩ := Array.mem_iff_getElem?.mp hmem
  obtain ⟨k, e, he, hwatched, hroom⟩ := h pair p hp hwaiting
  refine ⟨k, pair, ?_⟩
  simp only [Crowd.echo, he, hp, if_pos hwatched]
  exact (p.echo_true_iff e.buffer).mpr ⟨hwaiting, hroom⟩

/-- From anywhere a schedule leads to the end, with no more steps than bytes are left. -/
theorem Covered.exists_end (h : c.Covered) :
    ∃ more, more.length ≤ bytesToEcho c.sockets ∧ bytesToEcho (c.run more).sockets = 0 := by
  -- each step that echoes something brings the end nearer by a byte or more
  induction hn : bytesToEcho c.sockets using Nat.strongRecOn generalizing c with
  | ind n ih =>
    by_cases hleft : bytesToEcho c.sockets = 0
    · exact ⟨[], Nat.zero_le n, hleft⟩
    · obtain ⟨k, pair, hproductive⟩ := h.exists_productive hleft
      have hless := c.bytesToEcho_echo k pair
      rw [hproductive, Bool.toNat_true] at hless
      obtain ⟨more, hlength, hend⟩ := ih _ (by omega) (h.echo k pair) rfl
      refine ⟨(k, pair) :: more, ?_, hend⟩
      rw [List.length_cons]
      omega

end Crowd

/-! ## Engines -/

/-- The sockets after the engines have had wake-ups in the order of these positions. -/
def takeTurns (engines : Array Watcher) (sockets : Array SocketPair) :
    List Nat → Array SocketPair
  | [] => sockets
  | k :: rest =>
    match engines[k]? with
    | none => takeTurns engines sockets rest
    | some w =>
      let (w, sockets) := w.wake sockets
      takeTurns (engines.setIfInBounds k w) sockets rest

namespace Crowd

/-- An engine as somebody who echoes. -/
def echoer (w : Watcher) : Echoer := ⟨w.watched.map Watched.pair, w.buffer⟩

def ofEngines (engines : Array Watcher) (sockets : Array SocketPair) : Crowd :=
  { sockets, echoers := engines.map echoer }

/-- The work of one of several echoers consists of echo steps. -/
theorem exists_run_of_work {c : Crowd} {k : Nat} {d d' : Duty}
    (hk : c.echoers[k]? = some ⟨d.watched.map Watched.pair, d.buffer⟩)
    (hsockets : c.sockets = d.sockets) (h : Duty.Work d d') :
    ∃ steps, c.run steps = ⟨d'.sockets,
      c.echoers.setIfInBounds k ⟨d.watched.map Watched.pair, d'.buffer⟩⟩ := by
  have hlt : k < c.echoers.size := (Array.getElem?_eq_some_iff.mp hk).1
  induction h with
  | refl =>
    refine ⟨[], ?_⟩
    have hsame : c.echoers.setIfInBounds k ⟨d.watched.map Watched.pair, d.buffer⟩ = c.echoers := by
      apply Array.ext_getElem?
      intro i
      rw [Array.getElem?_setIfInBounds]
      split
      · rename_i hi
        rw [← hi, hk]
      · rfl
    rw [hsame, ← hsockets]
    rfl
  | tail hwork hact ih =>
    rename_i e _
    obtain ⟨steps, hsteps⟩ := ih
    cases hact with
    | acknowledge => exact ⟨steps, hsteps⟩
    | echo hw =>
      rename_i w
      cases hp : e.sockets[w.pair]? with
      | none =>
        have hmiss : e.echo w.pair = e := by rw [Duty.echo, hp]
        exact ⟨steps, by rw [hmiss, hsteps]⟩
      | some p =>
        refine ⟨steps ++ [(k, w.pair)], ?_⟩
        have hmem : w.pair ∈ d.watched.map Watched.pair :=
          List.mem_map_of_mem (Duty.Work.watched_eq hwork ▸ hw)
        have hecho : e.echo w.pair = { e with
            buffer := (p.echo e.buffer).2.1
            sockets := e.sockets.setIfInBounds w.pair (p.echo e.buffer).2.2 } := by
          rw [Duty.echo, hp]
        rw [run_append, hsteps, hecho]
        show (echo _ k w.pair).2 = _
        simp only [echo, Array.getElem?_setIfInBounds_self_of_lt hlt, hp, if_pos hmem,
          Array.setIfInBounds_setIfInBounds]

/-- **Engines that take turns do nothing but echo steps.** -/
theorem exists_run_of_takeTurns (engines : Array Watcher) (sockets : Array SocketPair)
    (turns : List Nat) :
    ∃ steps, ((ofEngines engines sockets).run steps).sockets =
      takeTurns engines sockets turns := by
  induction turns generalizing engines sockets with
  | nil => exact ⟨[], rfl⟩
  | cons k rest ih =>
    rw [takeTurns]
    split
    · exact ih engines sockets
    · rename_i w hw
      obtain ⟨hseat, d, hwork, hbuffer, hsockets⟩ := w.wake_work sockets
      have hk : (ofEngines engines sockets).echoers[k]? = some (echoer w) := by
        rw [ofEngines, Array.getElem?_map, hw]
        rfl
      obtain ⟨steps, hsteps⟩ := exists_run_of_work hk rfl hwork
      have hafter : (ofEngines engines sockets).run steps =
          ofEngines (engines.setIfInBounds k (w.wake sockets).1) (w.wake sockets).2 := by
        have hechoer : echoer (w.wake sockets).1 = ⟨w.watched.map Watched.pair, d.buffer⟩ := by
          rw [echoer, hseat.watched, hbuffer]
        rw [hsteps, ofEngines, ofEngines, Array.map_setIfInBounds, hechoer, hsockets]
        rfl
      obtain ⟨more, hmore⟩ := ih (engines.setIfInBounds k (w.wake sockets).1) (w.wake sockets).2
      refine ⟨steps ++ more, ?_⟩
      rw [run_append, hafter]
      exact hmore

end Crowd

/-! ## The outcome -/

namespace Crowd

variable {c : Crowd}

/-- What is true of every schedule of echo steps. -/
structure Settling (c : Crowd) (schedule : List (Nat × Nat)) : Prop where
  /-- Not more steps echo something than there are bytes to begin with. -/
  bounded : c.productive schedule ≤ bytesToEcho c.sockets
  /-- On each pair, what has left the requests was written in the same order, and what the replies
  have taken of it stands behind what they held. -/
  passed : ∀ (i : Nat) (p : SocketPair), c.sockets[i]? = some p →
    ∃ q, (c.run schedule).sockets[i]? = some q ∧ p.Passed q (c.repliesTo i schedule)
  /-- When nothing is left, a pair is what it was bound to come to, if no reply to it was cut and
  only then. -/
  agrees : bytesToEcho (c.run schedule).sockets = 0 → ∀ (i : Nat) (p q : SocketPair),
    c.sockets[i]? = some p → (c.run schedule).sockets[i]? = some q →
    (q.contents = p.contents.drained ↔ ∀ r ∈ c.repliesTo i schedule, r.IsWhole)
  /-- No reply is cut on a pair whose replies are closed. -/
  closed : ∀ (i : Nat) (p : SocketPair), c.sockets[i]? = some p → p.replies.isOpen = false →
    ∀ r ∈ c.repliesTo i schedule, r.IsWhole
  /-- Nobody cuts a reply where the engines' end waits, or where there is memory for a piece for
  each byte that is to be echoed. -/
  roomy : (∀ p ∈ c.sockets, p.Roomy) →
    ∀ (d : Crowd) (other : List (Nat × Nat)), d.sockets = c.sockets → d.Uncut other
  /-- Nothing is left when no step can echo anything, and only then. -/
  idle : (∀ k pair, ((c.run schedule).echo k pair).1 = false) ↔
    bytesToEcho (c.run schedule).sockets = 0
  /-- There is a way on until nothing is left. -/
  finishes : ∃ more, more.length ≤ bytesToEcho (c.run schedule).sockets ∧
    bytesToEcho (c.run (schedule ++ more)).sockets = 0
  /-- Other echoers, in any number and with any buffers, leave the same. -/
  others : ∀ (d : Crowd) (other : List (Nat × Nat)), d.sockets = c.sockets →
    bytesToEcho (c.run schedule).sockets = 0 → bytesToEcho (d.run other).sockets = 0 →
    c.Uncut schedule → d.Uncut other →
    contentsOf (d.run other).sockets = contentsOf (c.run schedule).sockets
  /-- Engines of all kinds that take turns are such echoers. -/
  engines : ∀ (engines : Array Watcher) (turns : List Nat), ∃ other,
    ((ofEngines engines c.sockets).run other).sockets = takeTurns engines c.sockets turns

/-- Sockets on which nothing is left are what they were bound to come to. -/
theorem run_of_done {schedule : List (Nat × Nat)}
    (hdone : bytesToEcho (c.run schedule).sockets = 0) (huncut : c.Uncut schedule) :
    contentsOf (c.run schedule).sockets = (contentsOf c.sockets).map Contents.drained := by
  rw [bytesToEcho_eq_zero_iff] at hdone
  apply List.ext_getElem?
  intro i
  rw [contentsOf, contentsOf, List.getElem?_map, List.getElem?_map, List.getElem?_map,
    Array.getElem?_toList, Array.getElem?_toList]
  cases hp : c.sockets[i]? with
  | none =>
    have hnone : (c.run schedule).sockets[i]? = none := by
      rw [Array.getElem?_eq_none_iff] at hp ⊢
      rw [size_run]
      exact hp
    rw [hnone]
    rfl
  | some p =>
    obtain ⟨q, hq, hpassed⟩ := c.passed_run schedule hp
    rw [hq, Option.map_some, Option.map_some, Option.map_some,
      (hpassed.contents_iff (hdone q (Array.mem_of_getElem? hq))).mpr (huncut i)]

theorem Covered.echo_false_iff (h : c.Covered) :
    (∀ k pair, (c.echo k pair).1 = false) ↔ bytesToEcho c.sockets = 0 := by
  constructor
  · intro hidle
    by_contra hleft
    obtain ⟨k, pair, hproductive⟩ := h.exists_productive hleft
    rw [hidle k pair] at hproductive
    exact Bool.false_ne_true hproductive
  · intro hdone k pair
    have hless := c.bytesToEcho_echo k pair
    cases hproductive : (c.echo k pair).1 with
    | false => rfl
    | true =>
      rw [hproductive, Bool.toNat_true] at hless
      omega

/-- **Echoing comes to an end, and always to the same.** The queues hold anything and are open or
closed; the echoers are any, with room for a byte or more, and wherever a request waits somebody
watches. -/
theorem settling_run (c : Crowd) (schedule : List (Nat × Nat))
    (hroom : ∀ e ∈ c.echoers, 1 ≤ e.buffer.size)
    (hwatched : ∀ (pair : Nat) (p : SocketPair), c.sockets[pair]? = some p →
      p.requests.waiting ≠ [] → ∃ e ∈ c.echoers, pair ∈ e.watched) :
    c.Settling schedule := by
  have hcovered : c.Covered := by
    intro pair p hp hwaiting
    obtain ⟨e, hmem, he⟩ := hwatched pair p hp hwaiting
    obtain ⟨k, hk⟩ := Array.mem_iff_getElem?.mp hmem
    exact ⟨k, e, hk, he, hroom e hmem⟩
  have hafter : (c.run schedule).Covered := hcovered.run schedule
  refine ⟨?bounded, fun i p hp => c.passed_run schedule hp, ?agrees, ?closed, ?roomy,
    hafter.echo_false_iff, ?finishes, ?others, fun engines turns =>
      exists_run_of_takeTurns engines c.sockets turns⟩
  case bounded =>
    have hbytes := c.bytesToEcho_run schedule
    omega
  case agrees =>
    intro hdone i p q hp hq
    obtain ⟨q', hq', hpassed⟩ := c.passed_run schedule hp
    rw [hq] at hq'
    cases hq'
    exact hpassed.contents_iff (bytesToEcho_eq_zero_iff.mp hdone q (Array.mem_of_getElem? hq))
  case closed =>
    intro i p hp hclosed
    obtain ⟨q, -, hpassed⟩ := c.passed_run schedule hp
    exact hpassed.isWhole_of_closed hclosed
  case roomy =>
    intro hroomy d other hsame i
    cases hp : d.sockets[i]? with
    | none => rw [repliesTo_of_none hp]; nofun
    | some p =>
      exact repliesTo_of_roomy hp (hroomy p (hsame ▸ Array.mem_of_getElem? hp)) other
  case finishes =>
    obtain ⟨more, hlength, hend⟩ := hafter.exists_end
    refine ⟨more, hlength, ?_⟩
    rw [run_append]
    exact hend
  case others =>
    intro d other hsame hdone hother huncut hothers
    rw [run_of_done hother hothers, run_of_done hdone huncut, hsame]

/-- Two echoers share a pair, one with room for two bytes and one for three, and the replies of the
other pair are closed. Three of five steps echo something. -/
theorem settling_run_two_echoers :
    let c : Crowd := {
      sockets := #[⟨{ waiting := [1, 2, 3, 4, 5] }, { waiting := [9] }, false⟩,
        ⟨{ waiting := [6, 7], isOpen := false }, { waiting := [8], isOpen := false }, true⟩]
      echoers := #[⟨[0, 1], .zeroed 2⟩, ⟨[0], .zeroed 3⟩] }
    let schedule := [(0, 0), (1, 0), (1, 1), (0, 0), (0, 1)]
    c.productive schedule = 3 ∧ contentsOf (c.run schedule).sockets =
        [⟨[], true, [9, 1, 2, 3, 4, 5], true, false⟩, ⟨[], false, [8], false, true⟩] ∧
      c.Uncut schedule ∧ c.Settling schedule := by
  intro c schedule
  have hsettling : c.Settling schedule := by
    refine settling_run c schedule (by simp [c, Buffer.zeroed]) ?_
    intro pair p hp hwaiting
    have hlt : pair < 2 := (Array.getElem?_eq_some_iff.mp hp).1
    have hboth : pair ∈ [0, 1] := by
      simp only [List.mem_cons, List.not_mem_nil, or_false]
      omega
    exact ⟨⟨[0, 1], .zeroed 2⟩, by simp [c], hboth⟩
  have hroomy : ∀ p ∈ c.sockets, p.Roomy := by
    intro p hp _
    rcases List.mem_pair.mp (Array.mem_def.mp hp) with rfl | rfl
    · exact Or.inr (Or.inr ⟨QueueMemory.isFair_default, by decide⟩)
    · exact Or.inl rfl
  exact ⟨by decide, by decide, hsettling.roomy hroomy c schedule rfl, hsettling⟩

/-- The replies hold 277 bytes that came one by one, so there is memory for one more piece. With one
echo step two bytes that wait come in; with two steps the second byte is lost, although replies can
be written. -/
theorem not_agrees_full_replies :
    let replies : ByteQueue := {
      waiting := List.replicate 277 9
      pieces := List.replicate 277 ⟨1, 768, Nat.one_pos⟩
      bytesOf_pieces := by
        rw [Piece.bytesOf, Piece.sumOf_replicate, List.length_replicate, Nat.mul_one] }
    let c : Crowd := {
      sockets := #[⟨{ waiting := [1, 2] }, replies, false⟩]
      echoers := #[⟨[0], .zeroed 2⟩, ⟨[0], .zeroed 1⟩] }
    contentsOf (c.run [(0, 0)]).sockets =
        [⟨[], true, List.replicate 277 9 ++ [1, 2], true, false⟩] ∧
      contentsOf (c.run [(1, 0), (1, 0)]).sockets =
        [⟨[], true, List.replicate 277 9 ++ [1], true, false⟩] ∧
      contentsOf (c.run [(1, 0), (1, 0)]).sockets ≠ contentsOf (c.run [(0, 0)]).sockets := by
  intro replies c
  have hused : replies.used = 277 * 768 := by
    show Piece.memoryOf (List.replicate 277 _) = _
    rw [Piece.memoryOf, Piece.sumOf_replicate]
  let p : SocketPair := ⟨{ waiting := [1, 2] }, replies, false⟩
  have htogether : contentsOf (c.run [(0, 0)]).sockets =
      [⟨[], true, List.replicate 277 9 ++ [1, 2], true, false⟩] := by
    have hstep : (c.run [(0, 0)]).sockets = #[p.afterEcho 2] := by
      show (c.echo 0 0).2.sockets = _
      rw [echo_of_watched (e := ⟨[0], .zeroed 2⟩) (p := p) rfl rfl List.mem_cons_self]
      rfl
    have hfits : replies.memory.fitting replies.used (replies.memory.cut 2) =
        replies.memory.cut 2 := by
      have hone : Piece.memoryOf (QueueMemory.cut {} 2).dropLast = 0 := by decide
      rw [QueueMemory.fitting_eq_self_iff]
      refine Or.inr ?_
      show replies.used + Piece.memoryOf (QueueMemory.cut {} 2).dropLast < 212992
      omega
    have hwaiting : (replies.extend false [1, 2]).waiting = List.replicate 277 9 ++ [1, 2] :=
      ByteQueue.waiting_extend_of_takes (ByteQueue.takes_eq_of_fitting rfl hfits false)
    rw [hstep, ← hwaiting]
    rfl
  have hapart : contentsOf (c.run [(1, 0), (1, 0)]).sockets =
      [⟨[], true, List.replicate 277 9 ++ [1], true, false⟩] := by
    have hsteps : (c.run [(1, 0), (1, 0)]).sockets = #[(p.afterEcho 1).afterEcho 1] := by
      have hone : c.echo 1 0 = _ :=
        echo_of_watched (e := ⟨[0], .zeroed 1⟩) (p := p) rfl rfl List.mem_cons_self
      show ((c.echo 1 0).2.echo 1 0).2.sockets = _
      rw [hone, echo_of_watched (e := ⟨[0], (p.echo (.zeroed 1)).2.1⟩) (p := p.afterEcho 1) rfl rfl
        List.mem_cons_self, (p.echo_eq _).2.1]
      rfl
    have hwaiting : ((replies.extend false [1]).extend false [2]).waiting =
        List.replicate 277 9 ++ [1] :=
      ByteQueue.extend_one_one rfl rfl (by omega) (by omega) 1 2
    rw [hsteps, ← hwaiting]
    rfl
  refine ⟨htogether, hapart, fun hsame => ?_⟩
  rw [htogether, hapart] at hsame
  have hreplies := congrArg (List.map Contents.replies) hsame
  rw [List.map_singleton, List.map_singleton, List.singleton_inj, List.append_right_inj] at hreplies
  cases hreplies

end Crowd

end ReadinessBench

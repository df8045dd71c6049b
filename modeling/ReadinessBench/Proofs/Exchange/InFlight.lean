import Mathlib.Data.List.Nodup
import Mathlib.Data.List.Perm.Subperm
import ReadinessBench.Proofs.Exchange.OneMessage
import ReadinessBench.Watch.Watcher

/-!
# What is under way, and what an epoll instance is told

The message is in one place, so at most one pair is busy, and at most one watched pair is ready at
a time. Main statement: `orderly_run`.
-/

namespace ReadinessBench.Exchange

open Transfer

/-- Whether a wait finds the engines' end of a pair ready. -/
def isReady (s : Exchange) (pair : Nat) : Bool :=
  match s.bench.sockets[pair]? with
  | some p => p.requests.isReadable
  | none => false

/-- What holds at every moment while messages of `m` bytes are exchanged. -/
structure Orderly (m : Nat) (s : Exchange) : Prop where
  /-- Every echo that the generator has read is the message it had written last, whole. -/
  echoed : ∀ before pair data after, s.history = before ++ .received pair data :: after →
    data.length = m ∧ (sentIn before).getLast? = some (pair, data)
  /-- Nothing is under way, or the message written last, over its own pair. -/
  underWay : (∀ pair, s.inFlight pair = []) ∨
    ∃ pair data, (sentIn s.history).getLast? = some (pair, data) ∧ data.length = m ∧
      s.inFlight pair = data ∧ ∀ other, other ≠ pair → s.inFlight other = []
  /-- An epoll instance finds at most one pair ready, so that its report is never cut short. -/
  reported : ∀ (pairs : List Nat) (buffer : Buffer) (stop : StopCounter),
    EpollLoop.registerAll (pairs.map s.bench.watchedOf) = .ok () →
    (pairs.filter s.isReady).length ≤ 1 ∧
      let d : Duty := ⟨pairs.map s.bench.watchedOf, buffer, stop, s.bench.sockets⟩
      Watcher.epollReport d =
        if stop.isReadable then stopToken :: Watcher.readyTokens d else Watcher.readyTokens d
  /-- No message is read by two workers, and nothing but messages. -/
  fetchedOnce : fetchedIn s.history <+: sentIn s.history
  deliveredOnce : deliveredIn s.history <+: fetchedIn s.history
  receivedOnce : receivedIn s.history <+: deliveredIn s.history
  /-- The next message is written only when the last one is back. -/
  oneByOne : (sentIn s.history).length ≤ (receivedIn s.history).length + 1
  noFault : s.workload.fault = none

namespace Carrying

variable {message : Bytes} {place : Place} {s : Exchange}

/-- Nobody has anything in hand of a pair unless the message is in a hand. -/
theorem hands_eq_nil (h : Carrying message place s) {pair : Nat}
    (hfree : ∀ k, place = .hand k → pair ≠ s.workload.current) :
    s.workers.toList.flatMap (·.inHandOf pair) = [] := by
  rw [List.flatMap_eq_nil_iff]
  intro w hw
  obtain ⟨k, hk⟩ := List.mem_iff_getElem?.mp hw
  rw [Array.getElem?_toList] at hk
  by_cases hplace : place = .hand k
  · obtain ⟨x, hx, howed, -⟩ := h.holds k hplace
    rw [hk, Option.some.injEq] at hx
    subst hx
    simp only [EchoWorker.inHandOf, howed, if_neg (hfree k hplace).symm]
  · simp only [EchoWorker.inHandOf, h.idle k w hk hplace]

theorem hands_eq_message {k : Nat} (h : Carrying message (.hand k) s) :
    s.workers.toList.flatMap (·.inHandOf s.workload.current) = message := by
  obtain ⟨w, hw, howed, hhand⟩ := h.holds k rfl
  have hholder : w.inHandOf s.workload.current = message := by
    simp only [EchoWorker.inHandOf, howed, if_true, hhand]
  rw [← hholder]
  apply flatMap_eq_of_getElem? (Array.getElem?_toList.trans hw)
  intro j x hj hx
  rw [Array.getElem?_toList] at hx
  have hidle := h.idle j x hx fun heq => hj (Place.hand.inj heq).symm
  simp only [EchoWorker.inHandOf, hidle]

theorem inFlight_other (h : Carrying message place s) {pair : Nat}
    (hpair : pair ≠ s.workload.current) : s.inFlight pair = [] := by
  have hhands := h.hands_eq_nil (fun _ _ => hpair)
  unfold inFlight
  split
  · rename_i p hp
    obtain ⟨hrequests, hreplies⟩ := h.elsewhere pair p hpair hp
    rw [hrequests.1, hreplies.1, hhands]
    rfl
  · exact hhands

theorem inFlight_current (h : Carrying message place s) :
    s.inFlight s.workload.current = if place = .nowhere then [] else message := by
  obtain ⟨p, hp⟩ := h.exists_pair
  obtain ⟨hrequests, hreplies⟩ := h.here p hp
  have hbytes : s.inFlight s.workload.current = place.replyBytes message ++
      s.workers.toList.flatMap (·.inHandOf s.workload.current) ++ place.requestBytes message := by
    simp only [inFlight, hp, hrequests.1, hreplies.1]
  -- of the three parts the place fills one at most
  cases place with
  | hand k =>
    rw [hbytes, h.hands_eq_message]
    simp only [Place.replyBytes, Place.requestBytes, List.nil_append, List.append_nil,
      reduceCtorEq, if_false]
  | nowhere =>
    rw [hbytes, h.hands_eq_nil (fun _ hk => Place.noConfusion hk)]
    rfl
  | requests =>
    rw [hbytes, h.hands_eq_nil (fun _ hk => Place.noConfusion hk)]
    rfl
  | replies =>
    rw [hbytes, h.hands_eq_nil (fun _ hk => Place.noConfusion hk)]
    simp only [Place.replyBytes, Place.requestBytes, List.append_nil, reduceCtorEq, if_false]

/-- Only the current pair can be ready. -/
theorem eq_current_of_isReady (h : Carrying message place s) {pair : Nat}
    (hready : s.isReady pair = true) : pair = s.workload.current := by
  by_contra hpair
  unfold isReady at hready
  split at hready
  · rename_i p hp
    obtain ⟨hempty, hopen⟩ := (h.elsewhere pair p hpair hp).1
    rw [ByteQueue.isReadable, hempty, hopen] at hready
    cases hready
  · cases hready

theorem length_ready_le (h : Carrying message place s) {pairs : List Nat} (hnodup : pairs.Nodup) :
    (pairs.filter s.isReady).length ≤ 1 := by
  have hsub : pairs.filter s.isReady ⊆ [s.workload.current] := by
    intro pair hpair
    rw [List.mem_singleton]
    exact h.eq_current_of_isReady (List.mem_filter.mp hpair).2
  exact (List.subperm_of_subset (hnodup.filter _) hsub).length_le

theorem length_readyTokens_le (h : Carrying message place s) {d : Duty}
    (hsockets : d.sockets = s.bench.sockets) (hnodup : (d.watched.map Watched.pair).Nodup) :
    (Watcher.readyTokens d).length ≤ 1 := by
  have hpositions : (Watcher.readyTokens d).length =
      (d.watched.filter fun x => d.hasRequest x.pair).length := by
    conv_rhs => rw [← List.zipIdx_map_fst 0 d.watched, List.filter_map, List.length_map]
    rw [Watcher.readyTokens, List.length_map]
    rfl
  have hpairs : (d.watched.filter fun x => d.hasRequest x.pair).length =
      ((d.watched.map Watched.pair).filter d.hasRequest).length := by
    rw [List.filter_map, List.length_map]
    rfl
  -- epoll reports pairs with bytes, and these are ready
  have himp : ∀ pair, d.hasRequest pair = true → s.isReady pair = true := by
    intro pair hrequest
    unfold Duty.hasRequest at hrequest
    rw [hsockets] at hrequest
    unfold isReady
    cases hp : s.bench.sockets[pair]? with
    | none =>
      rw [hp] at hrequest
      cases hrequest
    | some p =>
      rw [hp] at hrequest
      exact Bool.or_eq_true_iff.mpr (Or.inl hrequest)
  rw [hpositions, hpairs]
  exact Nat.le_trans (List.monotone_filter_right _ himp).length_le (h.length_ready_le hnodup)

theorem orderly (h : Carrying message place s) : Orderly message.length s where
  echoed before pair data after heq := by
    obtain ⟨rfl, hlast⟩ := h.recorded.answered before pair data after heq
    exact ⟨rfl, hlast⟩
  underWay := by
    by_cases hplace : place = .nowhere
    · refine Or.inl fun pair => ?_
      by_cases hpair : pair = s.workload.current
      · rw [hpair, h.inFlight_current, if_pos hplace]
      · exact h.inFlight_other hpair
    · refine Or.inr ⟨s.workload.current, message, ?_, rfl, ?_, fun _ => h.inFlight_other⟩
      · rw [h.recorded.sent]
        cases place with
        | nowhere => contradiction
        | requests => exact List.getLast?_concat
        | hand k => exact List.getLast?_concat
        | replies => exact List.getLast?_concat
      · rw [h.inFlight_current, if_neg hplace]
  reported pairs buffer stop hregister := by
    rw [EpollLoop.registerAll_eq_ok_iff, List.map_map] at hregister
    have hnodup : pairs.Nodup := hregister.of_map _
    refine ⟨h.length_ready_le hnodup, ?_⟩
    intro d
    -- the pairs of the instance are those it was created for
    have hwatched : d.watched.map Watched.pair = pairs := by
      rw [List.map_map]
      exact List.map_id pairs
    have hlength := h.length_readyTokens_le (d := d) rfl (hwatched ▸ hnodup)
    unfold Watcher.epollReport
    apply List.take_of_length_le
    show _ ≤ 2
    split
    · rw [List.length_cons]
      omega
    · omega
  fetchedOnce := by
    rw [h.recorded.sent, h.recorded.fetched, List.prefix_append_right_inj]
    cases place <;> simp only [Place.unread, Place.unreadFetched, List.nil_prefix,
      List.prefix_rfl]
  deliveredOnce := by
    rw [h.recorded.fetched, h.recorded.delivered, List.prefix_append_right_inj]
    cases place <;> simp only [Place.unreadFetched, Place.unreadDelivered, List.nil_prefix,
      List.prefix_rfl]
  receivedOnce := by
    rw [h.recorded.delivered]
    exact List.prefix_append _ _
  oneByOne := by
    rw [h.recorded.sent, List.length_append]
    cases place <;> simp [Place.unread]
  noFault := by
    have hsuits := h.suits
    unfold Workload.fault
    split
    · rename_i f hstage
      rw [hstage] at hsuits
      cases place with
      | nowhere => cases hsuits; rfl
      | requests => cases hsuits; rfl
      | hand k => cases hsuits; rfl
      | replies => cases hsuits; rfl
    · rfl

end Carrying

/-- **Whatever the order of steps, one message at a time makes its way.** The pairs are open and
empty to begin with, and every worker's buffer has room for a message, as the replies of every pair
have; the schedule brings any draws, any looks at the token and any halves of echo steps of any
workers, in any order. The replies of a pair have the usual room for messages of up to 219264 bytes
(`QueueMemory.holds_default`), and for any at all once the engines' end waits. -/
theorem orderly_run (b : Bench) (message : Buffer) (workers : Array EchoWorker)
    (hpairs : 0 < b.sockets.size)
    (hempty : ∀ p ∈ b.sockets, p.requests.OpenWith [] ∧ p.replies.OpenWith [])
    (hroom : ∀ p ∈ b.sockets, p.HasRoom message.size)
    (hmessage : 0 < message.size)
    (hworkers : ∀ w ∈ workers, message.size ≤ w.buffer.size ∧ w.owed = none)
    (schedule : List Action) :
    Orderly message.size ((start b message workers).run schedule) := by
  have hne : message.contents ≠ [] := by
    rw [← List.length_pos_iff, message.length_contents]
    exact hmessage
  obtain ⟨place, h⟩ := (Carrying.start hpairs hempty hroom hworkers).run hne schedule
  rw [← message.length_contents]
  exact h.orderly

/-- Two workers race for two messages on two pairs; each gets one of them. -/
theorem orderly_run_two_workers :
    let b : Bench := { sockets := #[{}, {}] }
    let message : Buffer := { size := 2, front := [7], front_le := by decide }
    let workers : Array EchoWorker :=
      #[{ watched := [0, 1], buffer := .zeroed 2 }, { watched := [1, 0], buffer := .zeroed 5 }]
    let schedule : List Action := [.look false, .write, .look false, .read, .fetch 1 0,
      .fetch 0 0, .read, .deliver 1, .read, .look false, .draw 1, .look false, .write, .fetch 1 0,
      .fetch 0 1, .look true, .deliver 0]
    let s := (start b message workers).run schedule
    s.history = [.sent 0 [7, 0], .fetched 1 0 [7, 0], .delivered 1 0 [7, 0], .received 0 [7, 0],
      .sent 1 [7, 0], .fetched 0 1 [7, 0], .delivered 0 1 [7, 0]] ∧ Orderly 2 s := by
  intro b message workers schedule s
  refine ⟨by decide, ?_⟩
  apply orderly_run b message workers
  · decide
  · decide
  · decide
  · decide
  · decide

end ReadinessBench.Exchange

import Mathlib.Data.List.Basic
import ReadinessBench.Proofs.Echo.Room
import ReadinessBench.Proofs.Exchange.Basic
import ReadinessBench.Proofs.Lists

/-!
# One message at a time

While a workload drives its round trips, there is at most one message under way, whatever the
workers do: the workload writes only when nothing is under way, and a worker can only pass on what
is there. So the message is always in one place (`Place`), and every step moves it at most to the
next place or back to the workload.
-/

namespace ReadinessBench

namespace Transfer

private theorem sentIn_snoc (h : List Transfer) (x : Transfer) :
    sentIn (h ++ [x]) = sentIn h ++ sentIn [x] :=
  List.filterMap_append

private theorem fetchedIn_snoc (h : List Transfer) (x : Transfer) :
    fetchedIn (h ++ [x]) = fetchedIn h ++ fetchedIn [x] :=
  List.filterMap_append

private theorem deliveredIn_snoc (h : List Transfer) (x : Transfer) :
    deliveredIn (h ++ [x]) = deliveredIn h ++ deliveredIn [x] :=
  List.filterMap_append

private theorem receivedIn_snoc (h : List Transfer) (x : Transfer) :
    receivedIn (h ++ [x]) = receivedIn h ++ receivedIn [x] :=
  List.filterMap_append

end Transfer

namespace Exchange

open Transfer

/-! ## Where the message is -/

/-- Where the message is that the workload has written and not read back. -/
inductive Place where
  | nowhere
  | requests
  /-- A worker has read it and owes the reply. -/
  | hand (worker : Nat)
  | replies
  deriving DecidableEq, Repr

/-- What the workload may be at while nothing is under way. -/
inductive Resting (size : Nat) : Stage → Prop where
  | ready : Resting size .ready
  | sending : Resting size .sending
  | received : Resting size (.received (.ok size))
  | drawing : Resting size .drawing
  | over : Resting size (.over none)

/-- What the workload may be at while its message is under way. -/
inductive Awaiting (size : Nat) : Stage → Prop where
  | sent : Awaiting size (.sent (.ok size))
  | receiving : Awaiting size .receiving
  | over : Awaiting size (.over none)

namespace Place

def Suits (size : Nat) : Place → Stage → Prop
  | nowhere => Resting size
  | requests | hand _ | replies => Awaiting size

def requestBytes (message : Bytes) : Place → Bytes
  | requests => message
  | nowhere | hand _ | replies => []

def replyBytes (message : Bytes) : Place → Bytes
  | replies => message
  | nowhere | requests | hand _ => []

/-- The messages that have been written and not read back. -/
def unread (x : Nat × Bytes) : Place → List (Nat × Bytes)
  | nowhere => []
  | requests | hand _ | replies => [x]

/-- Those of them that a worker has read. -/
def unreadFetched (x : Nat × Bytes) : Place → List (Nat × Bytes)
  | nowhere | requests => []
  | hand _ | replies => [x]

/-- Those of them that have been answered. -/
def unreadDelivered (x : Nat × Bytes) : Place → List (Nat × Bytes)
  | nowhere | requests | hand _ => []
  | replies => [x]

end Place

/-! ## The history -/

/-- What the history says while the message `x.2` of the pair `x.1` is at a place. -/
structure Recorded (x : Nat × Bytes) (place : Place) (h : List Transfer) : Prop where
  sent : sentIn h = receivedIn h ++ place.unread x
  fetched : fetchedIn h = receivedIn h ++ place.unreadFetched x
  delivered : deliveredIn h = receivedIn h ++ place.unreadDelivered x
  /-- Every echo is the message that was written last. -/
  answered : ∀ before pair data after, h = before ++ .received pair data :: after →
    data = x.2 ∧ (sentIn before).getLast? = some (pair, data)

namespace Recorded

theorem start (x : Nat × Bytes) : Recorded x .nowhere [] where
  sent := rfl
  fetched := rfl
  delivered := rfl
  answered before pair data after heq := by simp at heq

/-- With nothing under way it does not matter which pair comes next. -/
theorem turn {x y : Nat × Bytes} {h : List Transfer} (hr : Recorded x .nowhere h)
    (hmessage : x.2 = y.2) : Recorded y .nowhere h :=
  ⟨hr.sent, hr.fetched, hr.delivered, hmessage ▸ hr.answered⟩

/-- **A transfer that takes the message from one place to the next is recorded as such.** -/
theorem move {x : Nat × Bytes} {place next : Place} {h : List Transfer} {y : Transfer}
    (hr : Recorded x place h)
    (hsent : place.unread x ++ sentIn [y] = receivedIn [y] ++ next.unread x)
    (hfetched : place.unreadFetched x ++ fetchedIn [y] = receivedIn [y] ++ next.unreadFetched x)
    (hdelivered :
      place.unreadDelivered x ++ deliveredIn [y] = receivedIn [y] ++ next.unreadDelivered x)
    (hecho : ∀ pair data, y = .received pair data → (pair, data) = x ∧ place = .replies) :
    Recorded x next (h ++ [y]) where
  sent := by
    rw [sentIn_snoc, receivedIn_snoc, hr.sent, List.append_assoc, hsent, List.append_assoc]
  fetched := by
    rw [fetchedIn_snoc, receivedIn_snoc, hr.fetched, List.append_assoc, hfetched,
      List.append_assoc]
  delivered := by
    rw [deliveredIn_snoc, receivedIn_snoc, hr.delivered, List.append_assoc, hdelivered,
      List.append_assoc]
  answered := by
    intro before pair data after heq
    -- either the echo is the new transfer, or it stood in the history before
    rcases snoc_eq_append_cons heq with ⟨rfl, hlast⟩ | ⟨rest, hrest⟩
    · obtain ⟨rfl, rfl⟩ := hecho pair data hlast.symm
      rw [hr.sent]
      exact ⟨rfl, List.getLast?_concat⟩
    · exact hr.answered before pair data rest hrest

end Recorded

/-! ## The invariant -/

/-- The message is at `place` and nowhere else, and everything else is at rest. -/
structure Carrying (message : Bytes) (place : Place) (s : Exchange) : Prop where
  current_lt : s.workload.current < s.bench.sockets.size
  pairs_eq : s.workload.pairs = s.bench.sockets.size
  message_eq : s.workload.message.contents = message
  suits : place.Suits message.length s.workload.stage
  /-- The queues of the current pair. -/
  here : ∀ p, s.bench.sockets[s.workload.current]? = some p →
    p.requests.OpenWith (place.requestBytes message) ∧
      p.replies.OpenWith (place.replyBytes message)
  /-- The queues of all other pairs are empty. -/
  elsewhere : ∀ (i : Nat) (p : SocketPair), i ≠ s.workload.current → s.bench.sockets[i]? = some p →
    p.requests.OpenWith [] ∧ p.replies.OpenWith []
  roomy : ∀ (i : Nat) (p : SocketPair), s.bench.sockets[i]? = some p → p.HasRoom message.length
  fits : ∀ (k : Nat) (w : EchoWorker), s.workers[k]? = some w → message.length ≤ w.buffer.size
  /-- Only the worker that has the message owes a reply. -/
  idle : ∀ (k : Nat) (w : EchoWorker), s.workers[k]? = some w → place ≠ .hand k → w.owed = none
  holds : ∀ k : Nat, place = .hand k → ∃ w : EchoWorker, s.workers[k]? = some w ∧
    w.owed = some ⟨s.workload.current, message.length⟩ ∧ w.inHand = message
  recorded : Recorded (s.workload.current, message) place s.history

namespace Carrying

variable {message : Bytes} {place : Place} {s : Exchange}

theorem start {b : Bench} {buffer : Buffer} {workers : Array EchoWorker}
    (hpairs : 0 < b.sockets.size)
    (hempty : ∀ p ∈ b.sockets, p.requests.OpenWith [] ∧ p.replies.OpenWith [])
    (hroom : ∀ p ∈ b.sockets, p.HasRoom buffer.size)
    (hworkers : ∀ w ∈ workers, buffer.size ≤ w.buffer.size ∧ w.owed = none) :
    Carrying buffer.contents .nowhere (Exchange.start b buffer workers) where
  current_lt := hpairs
  pairs_eq := rfl
  message_eq := rfl
  suits := .ready
  here p hp := hempty p (Array.mem_of_getElem? hp)
  elsewhere _ p _ hp := hempty p (Array.mem_of_getElem? hp)
  roomy _ p hp := buffer.length_contents.symm ▸ hroom p (Array.mem_of_getElem? hp)
  fits _ w hw := buffer.length_contents ▸ (hworkers w (Array.mem_of_getElem? hw)).1
  idle _ w hw _ := (hworkers w (Array.mem_of_getElem? hw)).2
  holds _ hk := Place.noConfusion hk
  recorded := .start _

/-- A step of the workload alone that leaves its pair and its message as they are. -/
theorem of_workload (h : Carrying message place s) {w : Workload}
    (hpairs : w.pairs = s.workload.pairs) (hmessage : w.message = s.workload.message)
    (hcurrent : w.current = s.workload.current)
    (hsuits : place.Suits message.length w.stage) :
    Carrying message place { s with workload := w } where
  current_lt := hcurrent ▸ h.current_lt
  pairs_eq := hpairs.trans h.pairs_eq
  message_eq := hmessage ▸ h.message_eq
  suits := hsuits
  here := hcurrent ▸ h.here
  elsewhere := hcurrent ▸ h.elsewhere
  roomy := h.roomy
  fits := h.fits
  idle := h.idle
  holds := hcurrent ▸ h.holds
  recorded := hcurrent ▸ h.recorded

theorem suits_look {w : Workload} (h : place.Suits w.message.size w.stage) (cancelled : Bool) :
    place.Suits w.message.size (w.look cancelled).stage := by
  obtain ⟨pairs, buffer, current, trips, stage⟩ := w
  -- a look stays on its side: it sends nothing and fetches nothing back
  have hresting : Resting buffer.size stage → Resting buffer.size
      (Workload.look ⟨pairs, buffer, current, trips, stage⟩ cancelled).stage := by
    intro hr
    cases hr <;> cases cancelled <;>
      simp only [Workload.look, checkTransfer, if_true, if_false, Bool.false_eq_true] <;>
      constructor
  have hawaiting : Awaiting buffer.size stage → Awaiting buffer.size
      (Workload.look ⟨pairs, buffer, current, trips, stage⟩ cancelled).stage := by
    intro ha
    cases ha <;> cases cancelled <;>
      simp only [Workload.look, checkTransfer, if_true, if_false, Bool.false_eq_true] <;>
      constructor
  cases place with
  | nowhere => exact hresting h
  | requests => exact hawaiting h
  | hand k => exact hawaiting h
  | replies => exact hawaiting h

theorem length_eq (h : Carrying message place s) :
    message.length = s.workload.message.size := by
  rw [← h.message_eq, Buffer.length_contents]

theorem look (h : Carrying message place s) (cancelled : Bool) :
    Carrying message place (s.step (.look cancelled)) := by
  have hsuits := h.suits
  rw [h.length_eq] at hsuits
  refine h.of_workload (Workload.look_pairs _ _) (Workload.look_message _ _)
    (Workload.look_current _ _) ?_
  rw [h.length_eq]
  exact suits_look hsuits cancelled

theorem draw (h : Carrying message place s) (pair : Nat) :
    Carrying message place (s.step (.draw pair)) := by
  by_cases hlt : pair < s.workload.pairs
  · simp only [step, if_pos hlt]
    by_cases hstage : s.workload.stage = .drawing
    · have hsuits := h.suits
      rw [hstage] at hsuits
      cases place with
      | nowhere =>
        -- with nothing under way all pairs are alike
        have hquiet : ∀ (i : Nat) (p : SocketPair), s.bench.sockets[i]? = some p →
            p.requests.OpenWith [] ∧ p.replies.OpenWith [] := by
          intro i p hp
          by_cases hi : i = s.workload.current
          · exact h.here p (hi ▸ hp)
          · exact h.elsewhere i p hi hp
        simp only [Workload.drew, hstage]
        exact {
          current_lt := h.pairs_eq ▸ hlt
          pairs_eq := h.pairs_eq
          message_eq := h.message_eq
          suits := .ready
          here := fun p hp => hquiet pair p hp
          elsewhere := fun i p _ hp => hquiet i p hp
          roomy := h.roomy
          fits := h.fits
          idle := h.idle
          holds := fun _ hk => Place.noConfusion hk
          recorded := h.recorded.turn rfl }
      | requests => cases hsuits
      | hand k => cases hsuits
      | replies => cases hsuits
    · have hsame : s.workload.drew pair = s.workload := by
        unfold Workload.drew
        split
        · contradiction
        · rfl
      rw [hsame]
      exact h
  · simp only [step, if_neg hlt]
    exact h

theorem exists_pair (h : Carrying message place s) :
    ∃ p, s.bench.sockets[s.workload.current]? = some p :=
  ⟨_, Array.getElem?_eq_getElem h.current_lt⟩

theorem elsewhere_set (h : Carrying message place s) (q : SocketPair) :
    ∀ (i : Nat) (p : SocketPair), i ≠ s.workload.current →
      (s.bench.sockets.setIfInBounds s.workload.current q)[i]? = some p →
      p.requests.OpenWith [] ∧ p.replies.OpenWith [] := by
  intro i p hi hp
  rw [Array.getElem?_setIfInBounds_ne (Ne.symm hi)] at hp
  exact h.elsewhere i p hi hp

theorem roomy_set (h : Carrying message place s) {q : SocketPair} (hq : q.HasRoom message.length) :
    ∀ (i : Nat) (p : SocketPair),
      (s.bench.sockets.setIfInBounds s.workload.current q)[i]? = some p →
      p.HasRoom message.length := by
  intro i p hp
  rw [Array.getElem?_setIfInBounds, if_pos h.current_lt] at hp
  split at hp
  · exact Option.some.inj hp ▸ hq
  · exact h.roomy i p hp

theorem here_set (h : Carrying message place s) {q : SocketPair} {next : Place}
    (hq : q.requests.OpenWith (next.requestBytes message) ∧
      q.replies.OpenWith (next.replyBytes message)) :
    ∀ p, (s.bench.sockets.setIfInBounds s.workload.current q)[s.workload.current]? = some p →
      p.requests.OpenWith (next.requestBytes message) ∧
        p.replies.OpenWith (next.replyBytes message) := by
  intro p hp
  rw [Array.getElem?_setIfInBounds_self_of_lt h.current_lt] at hp
  exact Option.some.inj hp ▸ hq

/-- The workload writes only when nothing is under way. -/
theorem write (h : Carrying message place s) : ∃ next, Carrying message next s.write := by
  by_cases hstage : s.workload.stage = .sending
  · have hsuits := h.suits
    rw [hstage] at hsuits
    cases place with
    | nowhere =>
      obtain ⟨p, hp⟩ := h.exists_pair
      obtain ⟨hrequests, hreplies⟩ := h.here p hp
      have hsend := SocketPair.send_open hrequests.2 message
      have hsent : (p.requests.extend true message).OpenWith message :=
        hrequests.extend (ByteQueue.takes_waiting hrequests.2 _)
      have hwrite : s.write = { s with
          workload := { s.workload with stage := .sent (.ok message.length) }
          bench := { s.bench with
            sockets := s.bench.sockets.setIfInBounds s.workload.current
              { p with requests := p.requests.extend true message } }
          history := s.history ++ [.sent s.workload.current message] } := by
        simp only [Exchange.write, hstage, h.message_eq, Bench.send_ok hp hsend, note,
          Workload.wrote]
      rw [hwrite]
      exact ⟨.requests, {
        current_lt := by simpa using h.current_lt
        pairs_eq := by simpa using h.pairs_eq
        message_eq := h.message_eq
        suits := .sent
        here := h.here_set ⟨hsent, hreplies⟩
        elsewhere := h.elsewhere_set _
        roomy := h.roomy_set (h.roomy _ p hp)
        fits := h.fits
        idle := fun k w hw _ => h.idle k w hw Place.noConfusion
        holds := fun _ hk => Place.noConfusion hk
        recorded := h.recorded.move rfl rfl rfl (fun _ _ => Transfer.noConfusion) }⟩
    | requests => cases hsuits
    | hand k => cases hsuits
    | replies => cases hsuits
  · refine ⟨place, ?_⟩
    have hsame : s.write = s := by
      unfold Exchange.write
      split
      · contradiction
      · rfl
    rw [hsame]
    exact h

/-- What the workload reads back is the message, and all of it. -/
theorem read (h : Carrying message place s) (hne : message ≠ []) :
    ∃ next, Carrying message next s.read := by
  by_cases hstage : s.workload.stage = .receiving
  · have hsuits := h.suits
    rw [hstage] at hsuits
    obtain ⟨p, hp⟩ := h.exists_pair
    obtain ⟨hrequests, hreplies⟩ := h.here p hp
    -- without a reply the read has to wait
    have hblocked : p.replies.OpenWith [] → s.read = s := by
      intro hempty
      simp only [Exchange.read, hstage, Bench.receive_eq hp, SocketPair.receive_empty hempty]
    cases place with
    | nowhere => cases hsuits
    | requests => exact ⟨_, (hblocked hreplies).symm ▸ h⟩
    | hand k => exact ⟨_, (hblocked hreplies).symm ▸ h⟩
    | replies =>
      have hfit := Nat.le_of_eq h.length_eq
      replace hreplies : p.replies.OpenWith message := hreplies
      have hreceive := SocketPair.receive_all hreplies hne hfit
      have hrest := (ByteQueue.read_all hreplies hne hfit).2
      have hread : s.read = { s with
          workload := { s.workload with
            message := s.workload.message.overwrite message
            stage := .received (.ok message.length) }
          bench := { s.bench with
            sockets := s.bench.sockets.setIfInBounds s.workload.current
              { p with replies := p.replies.drop s.workload.message.size } }
          history := s.history ++ [.received s.workload.current message] } := by
        simp only [Exchange.read, hstage, Bench.receive_eq hp, hreceive, note, Workload.read,
          Receipt.data]
      rw [hread]
      exact ⟨.nowhere, {
        current_lt := by simpa using h.current_lt
        pairs_eq := by simpa using h.pairs_eq
        message_eq := Buffer.contents_overwrite_full _ _ h.length_eq
        suits := .received
        here := h.here_set ⟨hrequests, hrest⟩
        elsewhere := h.elsewhere_set _
        roomy := h.roomy_set (h.roomy _ p hp)
        fits := h.fits
        idle := fun k w hw _ => h.idle k w hw Place.noConfusion
        holds := fun _ hk => Place.noConfusion hk
        recorded := h.recorded.move rfl rfl rfl (fun _ _ hy => by cases hy; exact ⟨rfl, rfl⟩) }⟩
  · refine ⟨place, ?_⟩
    have hsame : s.read = s := by
      unfold Exchange.read
      split
      · contradiction
      · rfl
    rw [hsame]
    exact h

/-- A worker that finds nothing changes nothing. -/
theorem fetch_empty {w : EchoWorker} {p : SocketPair} {worker pair : Nat}
    (hw : s.workers[worker]? = some w) (hp : s.bench.sockets[pair]? = some p)
    (hidle : w.owed = none) (hempty : p.requests.OpenWith []) : s.fetch worker pair = s := by
  have hmiss := EchoWorker.fetch_of_nil (SocketPair.takeRequest_empty hempty w.buffer.size) pair
  simp only [Exchange.fetch, hw, hp, hmiss, hidle, Option.isSome_none, Bool.false_eq_true,
    if_false, update_self hw hp, ite_self]

theorem workers_set {k j : Nat} {w x : EchoWorker}
    (hx : (s.workers.setIfInBounds k w)[j]? = some x) :
    j = k ∧ x = w ∨ j ≠ k ∧ s.workers[j]? = some x := by
  by_cases hjk : j = k
  · subst hjk
    rw [Array.getElem?_setIfInBounds_self] at hx
    split at hx
    · exact Or.inl ⟨rfl, (Option.some.inj hx).symm⟩
    · cases hx
  · rw [Array.getElem?_setIfInBounds_ne (Ne.symm hjk)] at hx
    exact Or.inr ⟨hjk, hx⟩

/-- The reading half takes the whole message into one hand, or nothing. -/
theorem fetch (h : Carrying message place s) (hne : message ≠ []) (worker pair : Nat) :
    ∃ next, Carrying message next (s.fetch worker pair) := by
  cases hw : s.workers[worker]? with
  | none => exact ⟨place, by simpa only [Exchange.fetch, hw] using h⟩
  | some w =>
  cases hp : s.bench.sockets[pair]? with
  | none => exact ⟨place, by simpa only [Exchange.fetch, hw, hp] using h⟩
  | some p =>
  by_cases hready : (w.owed.isNone && w.watched.contains pair) = true
  · have hidle : w.owed = none := by
      rw [Bool.and_eq_true, Option.isNone_iff_eq_none] at hready
      exact hready.1
    -- there is something to read only where the message waits
    by_cases hhere : place = .requests ∧ pair = s.workload.current
    · obtain ⟨rfl, rfl⟩ := hhere
      obtain ⟨hrequests, hreplies⟩ := h.here p hp
      have hfit := h.fits worker w hw
      have htake := EchoWorker.fetch_of_ne_nil hne
        (SocketPair.takeRequest_all hrequests hne hfit) s.workload.current
      have hrest := (ByteQueue.read_all hrequests hne hfit).2
      have hhand := EchoWorker.inHand_overwrite w s.workload.current message hfit
      have hlt : worker < s.workers.size := (Array.getElem?_eq_some_iff.mp hw).1
      have hfetch : s.fetch worker s.workload.current = { s with
          workers := s.workers.setIfInBounds worker
            { w with
              buffer := w.buffer.overwrite message
              owed := some ⟨s.workload.current, message.length⟩ }
          bench := { s.bench with
            sockets := s.bench.sockets.setIfInBounds s.workload.current
              { p with requests := p.requests.drop w.buffer.size } }
          history := s.history ++ [.fetched worker s.workload.current message] } := by
        simp only [Exchange.fetch, hw, hp, hready, if_true, htake, Option.isSome_some, hhand,
          update, note]
      rw [hfetch]
      exact ⟨.hand worker, {
        current_lt := by simpa using h.current_lt
        pairs_eq := by simpa using h.pairs_eq
        message_eq := h.message_eq
        suits := h.suits
        here := h.here_set ⟨hrest, hreplies⟩
        elsewhere := h.elsewhere_set _
        roomy := h.roomy_set (h.roomy _ p hp)
        fits := fun k x hx => by
          rcases workers_set hx with ⟨-, rfl⟩ | ⟨-, hx⟩
          · exact hfit
          · exact h.fits k x hx
        idle := fun k x hx hk => by
          rcases workers_set hx with ⟨rfl, -⟩ | ⟨-, hx⟩
          · exact absurd rfl hk
          · exact h.idle k x hx Place.noConfusion
        holds := fun k hk => by
          cases hk
          exact ⟨_, Array.getElem?_setIfInBounds_self_of_lt hlt, rfl, hhand⟩
        recorded := h.recorded.move rfl rfl rfl (fun _ _ => Transfer.noConfusion) }⟩
    · have hempty : p.requests.OpenWith [] := by
        by_cases hcurrent : pair = s.workload.current
        · have hplace : place ≠ .requests := fun hr => hhere ⟨hr, hcurrent⟩
          have hrequests := (h.here p (hcurrent ▸ hp)).1
          cases place with
          | requests => contradiction
          | nowhere => exact hrequests
          | hand k => exact hrequests
          | replies => exact hrequests
        · exact (h.elsewhere pair p hcurrent hp).1
      exact ⟨place, (fetch_empty hw hp hidle hempty).symm ▸ h⟩
  · exact ⟨place, by simpa only [Exchange.fetch, hw, hp, if_neg hready] using h⟩

/-- The writing half passes the message on to the replies of its pair. -/
theorem deliver (h : Carrying message place s) (worker : Nat) :
    ∃ next, Carrying message next (s.deliver worker) := by
  by_cases hplace : place = .hand worker
  · subst hplace
    obtain ⟨w, hw, howed, hhand⟩ := h.holds worker rfl
    obtain ⟨p, hp⟩ := h.exists_pair
    obtain ⟨hrequests, hreplies⟩ := h.here p hp
    have hput := p.putReply_eq message
    have hreplied := (h.roomy _ p hp).openWith hreplies
    have hdeliver : s.deliver worker = { s with
        workers := s.workers.setIfInBounds worker { w with owed := none }
        bench := { s.bench with
          sockets := s.bench.sockets.setIfInBounds s.workload.current
            { p with replies := p.replies.extend p.blocking message } }
        history := s.history ++ [.delivered worker s.workload.current message] } := by
      simp only [Exchange.deliver, hw, howed, hp, EchoWorker.deliver, hhand, hput, update, note]
    rw [hdeliver]
    exact ⟨.replies, {
      current_lt := by simpa using h.current_lt
      pairs_eq := by simpa using h.pairs_eq
      message_eq := h.message_eq
      suits := h.suits
      here := h.here_set ⟨hrequests, hreplied⟩
      elsewhere := h.elsewhere_set _
      roomy := h.roomy_set (h.roomy _ p hp)
      fits := fun k x hx => by
        rcases workers_set hx with ⟨-, rfl⟩ | ⟨-, hx⟩
        · exact h.fits worker w hw
        · exact h.fits k x hx
      idle := fun k x hx _ => by
        rcases workers_set hx with ⟨-, rfl⟩ | ⟨hk, hx⟩
        · rfl
        · exact h.idle k x hx (fun heq => hk (Place.hand.inj heq).symm)
      holds := fun _ hk => Place.noConfusion hk
      recorded := h.recorded.move rfl rfl rfl (fun _ _ => Transfer.noConfusion) }⟩
  -- a worker without the message owes no reply
  · refine ⟨place, ?_⟩
    have hsame : s.deliver worker = s := by
      unfold Exchange.deliver
      cases hw : s.workers[worker]? with
      | none => rfl
      | some w => simp only [h.idle worker w hw hplace]
    rw [hsame]
    exact h

theorem step (h : Carrying message place s) (hne : message ≠ []) (a : Action) :
    ∃ next, Carrying message next (s.step a) := by
  cases a with
  | look cancelled => exact ⟨place, h.look cancelled⟩
  | write => exact h.write
  | read => exact h.read hne
  | draw pair => exact ⟨place, h.draw pair⟩
  | fetch worker pair => exact h.fetch hne worker pair
  | deliver worker => exact h.deliver worker

/-- **At every moment of every schedule the message is in one place.** -/
theorem run (h : Carrying message place s) (hne : message ≠ []) (schedule : List Action) :
    ∃ next, Carrying message next (s.run schedule) := by
  -- by induction on the schedule; the place changes from step to step
  induction schedule generalizing s place with
  | nil => exact ⟨place, h⟩
  | cons a rest ih =>
    obtain ⟨next, hnext⟩ := h.step hne a
    exact ih hnext

end Carrying

end Exchange

end ReadinessBench

import Mathlib.Data.List.Basic
import Mathlib.Logic.Function.Basic
import ReadinessBench.Bench.Basic
import ReadinessBench.Proofs.Echo.Room

/-!
# No byte is made up or moved

A generator writes to its pairs and reads from them, workers echo, and ends are shut down, in any
order. Every worker has one buffer for all its pairs, in which whatever it read last still stands.

What becomes of one pair is told by the operations on this pair alone (`stream_run`). There every
byte that the generator has written still waits as a request, or a worker has read it in its turn;
and what the replies have taken of it comes back in the same order. So nothing is lost while they
can be written unless a reply has been cut because there was no memory for it, and with few enough
unread replies none is. Main statement: `conserved_run`.
-/

namespace ReadinessBench

inductive Operation where
  | write (pair : Nat) (data : Bytes)
  | read (pair n : Nat)
  /-- A worker echoes on a pair, with its buffer as it is. -/
  | echo (worker pair : Nat)
  | shutdown (pair : Nat) (e : SocketPair.End) (d : SocketPair.Direction)
  deriving DecidableEq

def Operation.pair : Operation → Nat
  | write pair _ | read pair _ | echo _ pair | shutdown pair _ _ => pair

/-- A bench with the buffers of its workers, and what the generator has written and read. -/
structure Streams where
  bench : Bench
  buffers : Array Buffer
  sent : Nat → Bytes := fun _ => []
  received : Nat → Bytes := fun _ => []
  /-- The writes of the workers. -/
  replies : Nat → List Reply := fun _ => []

/-- A pair, what the generator has written to it and read from it, and what workers have written. -/
structure Stream where
  pair : SocketPair
  sent : Bytes := []
  received : Bytes := []
  replies : List Reply := []
  deriving DecidableEq

namespace Stream

def write (x : Stream) (data : Bytes) : Stream :=
  match x.pair.send data with
  | .ok p => { x with pair := p, sent := x.sent ++ data }
  | .error _ => x

def read (x : Stream) (n : Nat) : Stream :=
  let (receipt, p) := x.pair.receive n
  { x with pair := p, received := x.received ++ receipt.data }

/-- One operation on the pair, where each worker has room for so many bytes. -/
def step (room : Nat → Nat) (x : Stream) : Operation → Stream
  | .write _ data => x.write data
  | .read _ n => x.read n
  | .echo worker _ => { x with
      pair := x.pair.afterEcho (room worker)
      replies := x.replies ++ x.pair.repliesOf (room worker) }
  | .shutdown _ e d => { x with pair := x.pair.shutdown e d }

/-! ## One pair -/

/-- No reply has been cut for want of memory. -/
def Uncut (x : Stream) : Prop := ∀ r ∈ x.replies, r.IsWhole

/-- Where the bytes are that the generator has written. -/
structure Accounted (x : Stream) : Prop where
  sent : x.replies.flatMap Reply.data ++ x.pair.requests.waiting = x.sent
  back : x.received ++ x.pair.replies.waiting = x.replies.flatMap Reply.kept
  taken_le : ∀ r ∈ x.replies, r.taken ≤ r.data.length
  waits : x.pair.blocking = true → x.Uncut
  /-- Replies that nobody could read any more are the last ones. -/
  closing : ∃ before after, x.replies = before ++ after ∧ (∀ r ∈ before, r.isOpen = true) ∧
    (∀ r ∈ after, r.taken = 0) ∧ (x.pair.replies.isOpen = true → after = [])
  /-- The memory in use is for what has come in. -/
  used_le : x.pair.replies.memory.IsFair → x.pair.replies.used ≤
    (x.replies.flatMap Reply.kept).length * x.pair.replies.memory.charge 1
  roomy : x.pair.replies.memory.IsFair →
    (x.sent.length - 1) * x.pair.replies.memory.charge 1 < x.pair.replies.memory.limit → x.Uncut

namespace Accounted

variable {x : Stream}

theorem start {p : SocketPair} (hempty : p.requests.waiting = [] ∧ p.replies.waiting = []) :
    Accounted ⟨p, [], [], []⟩ where
  sent := hempty.1
  back := hempty.2
  taken_le := nofun
  waits _ := nofun
  closing := ⟨[], [], rfl, nofun, nofun, fun _ => rfl⟩
  used_le _ := by
    show Piece.memoryOf p.replies.pieces ≤ _
    rw [p.replies.pieces_eq_nil hempty.2]
    exact Nat.zero_le _
  roomy _ _ := nofun

theorem write (h : Accounted x) (data : Bytes) : Accounted (x.write data) := by
  cases hopen : x.pair.requests.isOpen with
  | false =>
    have hrefused : x.write data = x := by
      simp [Stream.write, SocketPair.send, ByteQueue.write, hopen, Except.map]
    rw [hrefused]
    exact h
  | true =>
    have hall := ByteQueue.waiting_extend_of_takes
      (ByteQueue.takes_waiting hopen data.length)
    rw [Stream.write, SocketPair.send_open hopen]
    refine { h with sent := ?_, roomy := fun hfair hroom => h.roomy hfair ?_ }
    · show _ ++ (x.pair.requests.extend true data).waiting = x.sent ++ data
      rw [hall, ← List.append_assoc, h.sent]
    · have hless : x.sent.length - 1 ≤ (x.sent ++ data).length - 1 := by
        rw [List.length_append]
        omega
      exact Nat.lt_of_le_of_lt (Nat.mul_le_mul_right _ hless) hroom

theorem read (h : Accounted x) (n : Nat) : Accounted (x.read n) := by
  obtain ⟨hdata, hrest⟩ := x.pair.replies.read_eq n
  have hread : x.read n = { x with
      pair := { x.pair with replies := x.pair.replies.drop n }
      received := x.received ++ x.pair.replies.waiting.take n } := by
    rw [← hdata, ← hrest]
    rfl
  rw [hread]
  refine { h with back := ?_, used_le := fun hfair => ?_ }
  · show x.received ++ x.pair.replies.waiting.take n ++ x.pair.replies.waiting.drop n = _
    rw [List.append_assoc, List.take_append_drop, h.back]
  · exact Nat.le_trans (Piece.memoryOf_after_le n _) (h.used_le hfair)

theorem echo (h : Accounted x) (n : Nat) :
    Accounted { x with
      pair := x.pair.afterEcho n, replies := x.replies ++ x.pair.repliesOf n } := by
  have hpassed := x.pair.passed_afterEcho n
  obtain ⟨before, after, hreplies, hopen, hnone, hclosing⟩ := h.closing
  refine ⟨?_, ?_, ?_, ?_, ?_, fun hfair => ?_, fun hfair hroom => ?_⟩
  · show (x.replies ++ _).flatMap Reply.data ++ _ = x.sent
    rw [List.flatMap_append, List.append_assoc, ← hpassed.requests]
    exact h.sent
  · show _ = (x.replies ++ _).flatMap Reply.kept
    rw [hpassed.replies, List.flatMap_append, ← h.back, List.append_assoc]
  · intro r hr
    exact (List.mem_append.mp hr).elim (h.taken_le r) (hpassed.taken_le r)
  · intro hwaits r hr
    exact (List.mem_append.mp hr).elim (h.waits hwaits r) (hpassed.waits hwaits r)
  -- as long as replies are open nothing comes after the closing, and afterwards everything does
  · cases hnow : x.pair.replies.isOpen with
    | true =>
      have hbefore : x.replies = before := by rw [hreplies, hclosing hnow, List.append_nil]
      refine ⟨before ++ x.pair.repliesOf n, [], ?_, ?_, nofun, fun _ => rfl⟩
      · rw [List.append_nil, ← hbefore]
      · intro r hr
        exact (List.mem_append.mp hr).elim (hopen r) fun hr => (hpassed.isOpen r hr).trans hnow
    | false =>
      refine ⟨before, after ++ x.pair.repliesOf n, ?_, hopen, ?_, ?_⟩
      · rw [hreplies, List.append_assoc]
      · intro r hr
        refine (List.mem_append.mp hr).elim (hnone r) fun hr => ?_
        exact hpassed.closed r hr ((hpassed.isOpen r hr).trans hnow)
      · intro hstill
        rw [hpassed.repliesOpen, hnow] at hstill
        cases hstill
  · have hused := SocketPair.used_afterEcho_le (p := x.pair) hfair n
    have hbefore := h.used_le hfair
    rw [List.flatMap_append, List.length_append, Nat.add_mul]
    exact Nat.le_trans hused (Nat.add_le_add_right hbefore _)
  · have hmemory : (x.sent.length - 1) * x.pair.replies.memory.charge 1 <
        x.pair.replies.memory.limit := hroom
    intro r hr
    refine (List.mem_append.mp hr).elim (h.roomy hfair hroom r) fun hr => ?_
    -- what has been taken and what still waits is not more than what was written
    have hroomy : x.pair.Roomy := by
      intro _
      by_cases hempty : x.pair.requests.waiting = []
      · exact Or.inr (Or.inl hempty)
      refine Or.inr (Or.inr ⟨hfair, Nat.lt_of_le_of_lt ?_ hmemory⟩)
      have hpos := List.length_pos_iff.mpr hempty
      have hsent := congrArg List.length h.sent
      have hkept := (Reply.kept_sublist x.replies).length_le
      rw [List.length_append] at hsent
      refine Nat.le_trans (Nat.add_le_add_right (h.used_le hfair) _) ?_
      rw [← Nat.add_mul]
      exact Nat.mul_le_mul_right _ (by omega)
    exact hroomy.isWhole hr

theorem shutdown (h : Accounted x) (e : SocketPair.End) (d : SocketPair.Direction) :
    Accounted { x with pair := x.pair.shutdown e d } := by
  have hrequests : (x.pair.shutdown e d).requests.waiting = x.pair.requests.waiting := by
    unfold SocketPair.shutdown
    dsimp only
    split <;> rfl
  obtain ⟨hwaiting, hused, hmemory, hopen⟩ :
      (x.pair.shutdown e d).replies.waiting = x.pair.replies.waiting ∧
        (x.pair.shutdown e d).replies.used = x.pair.replies.used ∧
        (x.pair.shutdown e d).replies.memory = x.pair.replies.memory ∧
        ((x.pair.shutdown e d).replies.isOpen = true → x.pair.replies.isOpen = true) := by
    unfold SocketPair.shutdown
    dsimp only
    split
    · exact ⟨rfl, rfl, rfl, nofun⟩
    · exact ⟨rfl, rfl, rfl, id⟩
  obtain ⟨before, after, hreplies, hbefore, hafter, hclosing⟩ := h.closing
  refine ⟨?_, ?_, h.taken_le, h.waits, ?_, fun hfair => ?_, fun hfair hroom => ?_⟩
  · rw [hrequests]
    exact h.sent
  · rw [hwaiting]
    exact h.back
  · exact ⟨before, after, hreplies, hbefore, hafter, fun hstill => hclosing (hopen hstill)⟩
  · rw [hmemory] at hfair ⊢
    rw [hused]
    exact h.used_le hfair
  · rw [hmemory] at hfair hroom
    exact h.roomy hfair hroom

theorem step (h : Accounted x) (room : Nat → Nat) (op : Operation) :
    Accounted (x.step room op) := by
  cases op with
  | write pair data => exact h.write data
  | read pair n => exact h.read n
  | echo worker pair => exact h.echo (room worker)
  | shutdown pair e d => exact h.shutdown e d

theorem foldl (h : Accounted x) (room : Nat → Nat) (ops : List Operation) :
    Accounted (ops.foldl (Stream.step room) x) := by
  induction ops generalizing x with
  | nil => exact h
  | cons op rest ih => exact ih (h.step room op)

end Accounted

/-- What becomes of the bytes that the generator has written. -/
structure Conserved (x : Stream) : Prop where
  /-- Workers read them in order, and what they have not read still waits. -/
  sent : x.replies.flatMap Reply.data ++ x.pair.requests.waiting = x.sent
  /-- What their replies have taken comes back in the same order. -/
  back : x.received ++ x.pair.replies.waiting = x.replies.flatMap Reply.kept
  /-- Nothing else comes back, nothing twice, and nothing out of order. -/
  isSublist : (x.received ++ x.pair.replies.waiting ++ x.pair.requests.waiting).Sublist x.sent
  isPrefix : x.Uncut → x.received ++ x.pair.replies.waiting <+: x.sent
  /-- As long as replies can be written, all bytes are there if and only if no reply was cut. -/
  whole : x.pair.replies.isOpen = true →
    (x.received ++ x.pair.replies.waiting ++ x.pair.requests.waiting = x.sent ↔ x.Uncut)
  /-- No reply is cut if the engines' end waits, or if there is memory for a piece for each byte. -/
  roomy : (x.pair.blocking = true ∨ x.pair.replies.memory.IsFair ∧
    (x.sent.length - 1) * x.pair.replies.memory.charge 1 < x.pair.replies.memory.limit) → x.Uncut

theorem Accounted.conserved {x : Stream} (h : x.Accounted) : x.Conserved := by
  have hsublist := Reply.kept_sublist x.replies
  obtain ⟨before, after, hreplies, hopen, hnone, hclosing⟩ := h.closing
  refine ⟨h.sent, h.back, ?_, fun huncut => ?_,
    fun hstill => ⟨fun hall => ?_, fun huncut => ?_⟩, ?_⟩
  · rw [h.back, ← h.sent]
    exact hsublist.append_right _
  · -- what came in is what was to come in before the closing
    have hbefore : before.flatMap Reply.kept = before.flatMap Reply.data :=
      Reply.flatMap_kept_of_isWhole hopen fun r hr => huncut r (by rw [hreplies]; simp [hr])
    have hafter : after.flatMap Reply.kept = [] := by
      rw [List.flatMap_eq_nil_iff]
      intro r hr
      rw [Reply.kept, hnone r hr, List.take_zero]
    rw [h.back, ← h.sent, hreplies, List.flatMap_append, List.flatMap_append, hbefore, hafter,
      List.append_nil, List.append_assoc]
    exact List.prefix_append _ _
  · have hlength := congrArg List.length hall
    rw [h.back, ← h.sent, List.length_append, List.length_append] at hlength
    have htaken : ∀ r ∈ x.replies, r.data.length ≤ r.taken :=
      Reply.taken_eq_of_length (by omega)
    exact fun r hr _ => Nat.le_antisymm (h.taken_le r hr) (htaken r hr)
  · have hbefore : x.replies = before := by rw [hreplies, hclosing hstill, List.append_nil]
    rw [h.back, ← h.sent, Reply.flatMap_kept_of_isWhole (hbefore ▸ hopen) huncut]
  · rintro (hwaits | ⟨hfair, hroom⟩)
    · exact h.waits hwaits
    · exact h.roomy hfair hroom

/-! ## Bytes that come one by one -/

/-- A pair on which so many bytes have been echoed one by one, none of which has been read back. -/
structure Unread (k : Nat) (x : Stream) : Prop where
  requests : x.pair.requests.waiting = [] ∧ x.pair.requests.isOpen = true
  replies : x.pair.replies.waiting = List.replicate k 7 ∧ x.pair.replies.isOpen = true
  usual : x.pair.replies.memory = {} ∧ x.pair.blocking = false
  used : x.pair.replies.used = k * 768
  received : x.received = []
  sent : x.sent = List.replicate k 7

variable {room : Nat → Nat}

/-- A byte that is written when nothing waits, and echoed at once. -/
theorem write_echo_one {x : Stream} (hroom : room 0 = 1) (hempty : x.pair.requests.waiting = [])
    (hopen : x.pair.requests.isOpen = true) (byte : UInt8) :
    ∃ y, (x.write [byte]).step room (.echo 0 0) = y ∧
      y.pair.requests.waiting = [] ∧ y.pair.requests.isOpen = true ∧
      y.pair.replies = x.pair.replies.extend x.pair.blocking [byte] ∧
      y.pair.blocking = x.pair.blocking ∧ y.sent = x.sent ++ [byte] ∧
      y.received = x.received := by
  have hwaiting : (x.pair.requests.extend true [byte]).waiting = [byte] := by
    rw [ByteQueue.waiting_extend_of_takes (ByteQueue.takes_waiting hopen 1), hempty,
      List.nil_append]
  refine ⟨_, rfl, ?_⟩
  simp only [step, hroom]
  rw [write, SocketPair.send_open hopen]
  refine ⟨?_, hopen, ?_, rfl, rfl, rfl⟩
  · show (x.pair.requests.extend true [byte]).waiting.drop 1 = []
    rw [hwaiting]
    rfl
  · show x.pair.replies.extend _ ((x.pair.requests.extend true [byte]).waiting.take 1) = _
    rw [hwaiting]
    rfl

theorem Unread.one {x : Stream} {k : Nat} (h : x.Unread k) (hroom : room 0 = 1) (hk : k < 278) :
    ((x.write [7]).step room (.echo 0 0)).Unread (k + 1) := by
  obtain ⟨y, hy, hempty, hopen, hreplies, hblocking, hsent, hreceived⟩ :=
    write_echo_one hroom h.requests.1 h.requests.2 7
  have hone := ByteQueue.extend_one h.replies.2 h.usual.1 7
  rw [h.used, if_pos (by omega)] at hone
  rw [h.usual.2] at hreplies hblocking
  rw [hy]
  refine ⟨⟨hempty, hopen⟩, ⟨?_, ?_⟩, ⟨?_, hblocking⟩, ?_, hreceived.trans h.received, ?_⟩
  · rw [hreplies, hone.1, h.replies.1, List.replicate_succ']
  · rw [hreplies]
    exact h.replies.2
  · rw [hreplies]
    exact h.usual.1
  · rw [hreplies, hone.2, Nat.succ_mul]
  · rw [hsent, h.sent, List.replicate_succ']

theorem unread_run (hroom : room 0 = 1) {k : Nat} (hk : k ≤ 278) :
    ((List.replicate k [Operation.write 0 [7], .echo 0 0]).flatten.foldl (step room)
      ⟨{}, [], [], []⟩).Unread k := by
  induction k with
  | zero => exact ⟨⟨rfl, rfl⟩, ⟨rfl, rfl⟩, ⟨rfl, rfl⟩, rfl, rfl, rfl⟩
  | succ k ih =>
    rw [List.replicate_succ', List.flatten_concat, List.foldl_append]
    exact (ih (by omega)).one hroom hk

/-- The next byte is lost, and once the others have been read the one after it is not. -/
theorem Unread.lost {x : Stream} (h : x.Unread 278) (hroom : room 0 = 1) :
    ∃ y, [Operation.write 0 [7], .echo 0 0, .read 0 4096, .write 0 [8], .echo 0 0].foldl
        (step room) x = y ∧
      y.pair.replies.isOpen = true ∧ y.pair.requests.waiting = [] ∧
      y.received ++ y.pair.replies.waiting = List.replicate 278 7 ++ [8] ∧
      y.sent = List.replicate 278 7 ++ [7] ++ [8] := by
  obtain ⟨y, hy, hempty, hopen, hreplies, hblocking, hsent, hreceived⟩ :=
    write_echo_one hroom h.requests.1 h.requests.2 7
  have hfull := ByteQueue.extend_one h.replies.2 h.usual.1 7
  rw [h.used, if_neg (by omega)] at hfull
  rw [h.usual.2, hfull] at hreplies
  -- everything that waits is read, and then no memory is in use
  obtain ⟨hdata, hrest⟩ := y.pair.replies.read_eq 4096
  have hwaiting : y.pair.replies.waiting = List.replicate 278 7 := by rw [hreplies, h.replies.1]
  have hlength : (List.replicate 278 (7 : UInt8)).length ≤ 4096 := by
    rw [List.length_replicate]
    omega
  rw [hwaiting, List.take_of_length_le hlength] at hdata
  have hnothing : (y.pair.replies.read 4096).2.waiting = [] := by
    rw [hrest]
    show y.pair.replies.waiting.drop 4096 = []
    rw [hwaiting, List.drop_eq_nil_of_le hlength]
  have hunused : (y.pair.replies.read 4096).2.used = 0 :=
    congrArg Piece.memoryOf (ByteQueue.pieces_eq_nil hnothing)
  have hstill : (y.pair.replies.read 4096).2.isOpen = true := by
    rw [hrest, hreplies]
    exact h.replies.2
  have husual : (y.pair.replies.read 4096).2.memory = {} := by
    rw [hrest, hreplies]
    exact h.usual.1
  obtain ⟨z, hz, hempty', hopen', hreplies', -, hsent', hreceived'⟩ :=
    write_echo_one (x := y.read 4096) hroom hempty hopen 8
  have hone := ByteQueue.extend_one hstill husual 8
  rw [hunused, if_pos (by omega)] at hone
  have hmade : z.pair.replies = (y.pair.replies.read 4096).2.extend false [8] := by
    rw [hreplies']
    show _ = ByteQueue.extend _ false [8]
    rw [← h.usual.2, ← hblocking]
    rfl
  refine ⟨z, ?_, ?_, hempty', ?_, ?_⟩
  · rw [← hz, ← hy]
    rfl
  · rw [hmade]
    exact hstill
  · rw [hmade, hone.1, hnothing, List.nil_append, hreceived']
    show y.received ++ (y.pair.replies.read 4096).1.data ++ [8] = _
    rw [hdata, hreceived, h.received, List.nil_append]
  · rw [hsent']
    show y.sent ++ [8] = _
    rw [hsent, h.sent]

end Stream

/-! ## One pair among others -/

namespace Streams

def step (s : Streams) : Operation → Streams
  | .write pair data =>
    match s.bench.send pair data with
    | (.ok n, bench) =>
      { s with bench, sent := Function.update s.sent pair (s.sent pair ++ data.take n) }
    | (.error _, bench) => { s with bench }
  | .read pair n =>
    let (receipt, bench) := s.bench.receive pair n
    { s with
      bench
      received := Function.update s.received pair (s.received pair ++ receipt.data) }
  | .echo worker pair =>
    match s.buffers[worker]? with
    | none => s
    | some buffer =>
      let written := (s.bench.sockets[pair]?.map (·.repliesOf buffer.size)).getD []
      let (_, buffer, bench) := s.bench.echo pair buffer
      { s with
        bench
        buffers := s.buffers.setIfInBounds worker buffer
        replies := Function.update s.replies pair (s.replies pair ++ written) }
  | .shutdown pair e d => { s with bench := s.bench.updatePair pair (·.shutdown e d) }

def run (s : Streams) (ops : List Operation) : Streams := ops.foldl step s

/-- What there is to know about one pair. -/
def stream (s : Streams) (pair : Nat) : Option Stream :=
  s.bench.sockets[pair]?.map fun p => ⟨p, s.sent pair, s.received pair, s.replies pair⟩

/-- How many bytes a worker has room for; one that does not exist has none. -/
def room (s : Streams) (worker : Nat) : Nat := (s.buffers[worker]?.map Buffer.size).getD 0

theorem room_step (s : Streams) (op : Operation) : (s.step op).room = s.room := by
  cases op with
  | write pair data =>
    rw [step]
    split <;> rfl
  | read pair n => rfl
  | shutdown pair e d => rfl
  | echo worker pair =>
    rw [step]
    split
    · rfl
    · rename_i buffer hbuffer
      have hsize : (s.bench.echo pair buffer).2.1.size = buffer.size := by
        unfold Bench.echo
        split
        · rfl
        · rename_i p _
          exact (p.echo_eq buffer).2.1
      funext k
      show ((s.buffers.setIfInBounds worker _)[k]?.map Buffer.size).getD 0 = s.room k
      rw [Array.getElem?_setIfInBounds]
      split
      · rename_i hk
        subst hk
        simp only [room, hbuffer]
        split <;> simp_all
      · rfl

/-- A step that changes one pair, and what is noted of it, leaves all other streams alone. -/
theorem stream_of_change {s s' : Streams} {pair : Nat} {x : Stream}
    (hsockets : ∀ i, s'.bench.sockets[i]? =
      if pair = i then some x.pair else s.bench.sockets[i]?)
    (hsent : s'.sent = Function.update s.sent pair x.sent)
    (hreceived : s'.received = Function.update s.received pair x.received)
    (hreplies : s'.replies = Function.update s.replies pair x.replies) (i : Nat) :
    s'.stream i = if pair = i then some x else s.stream i := by
  rw [stream, hsockets, hsent, hreceived, hreplies]
  by_cases hi : pair = i
  · subst hi
    rw [if_pos rfl, if_pos rfl, Function.update_self, Function.update_self, Function.update_self]
    rfl
  · have hne : i ≠ pair := fun h => hi h.symm
    rw [if_neg hi, if_neg hi, Function.update_of_ne hne, Function.update_of_ne hne,
      Function.update_of_ne hne]
    rfl

theorem getElem?_set {sockets : Array SocketPair} {pair : Nat} {p : SocketPair}
    (hp : sockets[pair]? = some p) (q : SocketPair) (i : Nat) :
    (sockets.setIfInBounds pair q)[i]? = if pair = i then some q else sockets[i]? := by
  have hlt : pair < sockets.size := (Array.getElem?_eq_some_iff.mp hp).1
  rw [Array.getElem?_setIfInBounds, if_pos hlt]

theorem getElem?_keep {sockets : Array SocketPair} {pair : Nat} {p : SocketPair}
    (hp : sockets[pair]? = some p) (i : Nat) :
    sockets[i]? = if pair = i then some p else sockets[i]? := by
  split
  · rename_i hi
    rw [← hi, hp]
  · rfl

theorem stream_step_of_none {s : Streams} {op : Operation}
    (hp : s.bench.sockets[op.pair]? = none) (i : Nat) : (s.step op).stream i = s.stream i := by
  cases op with
  | write pair data =>
    change s.bench.sockets[pair]? = none at hp
    simp only [step, Bench.send, hp]
  | read pair n =>
    change s.bench.sockets[pair]? = none at hp
    by_cases hi : i = pair
    · simp only [step, Bench.receive, stream, hi, hp, Option.map_none]
    · simp only [step, Bench.receive, stream, hp, Function.update_of_ne hi]
  | echo worker pair =>
    change s.bench.sockets[pair]? = none at hp
    rw [step]
    split
    · rfl
    · simp only [Bench.echo, hp, stream, Option.map_none, Option.getD_none, List.append_nil,
        Function.update_eq_self]
  | shutdown pair e d =>
    change s.bench.sockets[pair]? = none at hp
    by_cases hi : pair = i
    · simp only [step, Bench.updatePair, stream, Array.getElem?_modify, ← hi, if_true, hp,
        Option.map_none]
    · simp only [step, Bench.updatePair, stream, Array.getElem?_modify, if_neg hi]

variable {s : Streams} {pair : Nat} {p : SocketPair}

theorem stream_write (hp : s.bench.sockets[pair]? = some p) (data : Bytes) (i : Nat) :
    (s.step (.write pair data)).stream i = if pair = i then
      some (Stream.write ⟨p, s.sent pair, s.received pair, s.replies pair⟩ data)
    else s.stream i := by
  rw [Stream.write]
  cases hsend : p.send data with
  | ok q =>
    have hstep : s.step (.write pair data) = { s with
        bench := { s.bench with sockets := s.bench.sockets.setIfInBounds pair q }
        sent := Function.update s.sent pair (s.sent pair ++ data) } := by
      simp only [step, Bench.send_ok hp hsend, List.take_length]
    rw [hstep]
    exact stream_of_change (getElem?_set hp q) rfl (Function.update_eq_self pair _).symm
      (Function.update_eq_self pair _).symm i
  | error f =>
    have hrefused : s.bench.send pair data = (.error f, s.bench) := by
      simp only [Bench.send, hp, hsend]
    have hstep : s.step (.write pair data) = s := by
      simp only [step, hrefused]
    rw [hstep]
    exact stream_of_change (getElem?_keep hp) (Function.update_eq_self pair _).symm
      (Function.update_eq_self pair _).symm (Function.update_eq_self pair _).symm i

theorem stream_read (hp : s.bench.sockets[pair]? = some p) (n i : Nat) :
    (s.step (.read pair n)).stream i = if pair = i then
      some (Stream.read ⟨p, s.sent pair, s.received pair, s.replies pair⟩ n) else s.stream i := by
  have hstep : s.step (.read pair n) = { s with
      bench := { s.bench with
        sockets := s.bench.sockets.setIfInBounds pair (p.receive n).2 }
      received := Function.update s.received pair
        (s.received pair ++ (p.receive n).1.data) } := by
    simp only [step, Bench.receive_eq hp]
  rw [hstep]
  exact stream_of_change (getElem?_set hp _) (Function.update_eq_self pair _).symm rfl
    (Function.update_eq_self pair _).symm i

theorem stream_echo (hp : s.bench.sockets[pair]? = some p) (worker i : Nat) :
    (s.step (.echo worker pair)).stream i = if pair = i then
      some ⟨p.afterEcho (s.room worker), s.sent pair, s.received pair,
        s.replies pair ++ p.repliesOf (s.room worker)⟩ else s.stream i := by
  have hsockets : ∀ j, (s.step (.echo worker pair)).bench.sockets[j]? =
      if pair = j then some (p.afterEcho (s.room worker)) else s.bench.sockets[j]? := by
    intro j
    rw [step, room]
    split
    · rename_i hbuffer
      rw [hbuffer, Option.map_none, Option.getD_none, SocketPair.afterEcho_zero]
      exact getElem?_keep hp j
    · rename_i buffer hbuffer
      rw [hbuffer, Option.map_some, Option.getD_some, ← (p.echo_eq buffer).2.2]
      simp only [Bench.echo, hp]
      exact getElem?_set hp _ j
  have hbooks : (s.step (.echo worker pair)).sent = s.sent ∧
      (s.step (.echo worker pair)).received = s.received := by
    rw [step]
    split <;> exact ⟨rfl, rfl⟩
  have hreplies : (s.step (.echo worker pair)).replies =
      Function.update s.replies pair (s.replies pair ++ p.repliesOf (s.room worker)) := by
    rw [step, room]
    split
    -- without a buffer nothing is read, and so nothing is written
    · rename_i hbuffer
      have hnone : p.repliesOf 0 = [] := by
        rw [SocketPair.repliesOf_eq, List.take_zero, if_pos rfl]
      rw [hbuffer, Option.map_none, Option.getD_none, hnone, List.append_nil]
      exact (Function.update_eq_self pair _).symm
    · rename_i buffer hbuffer
      rw [hbuffer, Option.map_some, Option.getD_some, hp]
      rfl
  apply stream_of_change hsockets _ _ hreplies
  · rw [hbooks.1]
    exact (Function.update_eq_self pair _).symm
  · rw [hbooks.2]
    exact (Function.update_eq_self pair _).symm

theorem stream_shutdown (hp : s.bench.sockets[pair]? = some p) (e : SocketPair.End)
    (d : SocketPair.Direction) (i : Nat) :
    (s.step (.shutdown pair e d)).stream i = if pair = i then
      some ⟨p.shutdown e d, s.sent pair, s.received pair, s.replies pair⟩ else s.stream i := by
  have hsockets : ∀ j, (s.step (.shutdown pair e d)).bench.sockets[j]? =
      if pair = j then some (p.shutdown e d) else s.bench.sockets[j]? := by
    intro j
    rw [step]
    simp only [Bench.updatePair, Array.getElem?_modify]
    split
    · rename_i hj
      rw [← hj, hp]
      rfl
    · rfl
  exact stream_of_change hsockets (Function.update_eq_self pair _).symm
    (Function.update_eq_self pair _).symm (Function.update_eq_self pair _).symm i

theorem stream_step_of_some {op : Operation} (hp : s.bench.sockets[op.pair]? = some p) (i : Nat) :
    (s.step op).stream i = if op.pair = i then
      some (Stream.step s.room ⟨p, s.sent op.pair, s.received op.pair, s.replies op.pair⟩ op)
    else s.stream i := by
  cases op with
  | write pair data => exact stream_write hp data i
  | read pair n => exact stream_read hp n i
  | echo worker pair => exact stream_echo hp worker i
  | shutdown pair e d => exact stream_shutdown hp e d i

/-- An operation does to its pair what it would do if there were no other, and nothing to the
others. -/
theorem stream_step (s : Streams) (op : Operation) (i : Nat) :
    (s.step op).stream i =
      (s.stream i).map fun x => if op.pair = i then x.step s.room op else x := by
  cases hp : s.bench.sockets[op.pair]? with
  | none =>
    rw [stream_step_of_none hp]
    split
    · rename_i hi
      rw [← hi, stream, hp]
      rfl
    · rw [Option.map_id']
  | some p =>
    rw [stream_step_of_some hp]
    split
    · rename_i hi
      rw [← hi, stream, hp]
      rfl
    · rw [Option.map_id']

/-- **What becomes of a pair does not depend on what is done to other pairs.** -/
theorem stream_run (s : Streams) (ops : List Operation) (i : Nat) :
    (s.run ops).stream i =
      (s.stream i).map fun x => (ops.filter (·.pair = i)).foldl (Stream.step s.room) x := by
  unfold run
  induction ops generalizing s with
  | nil => exact Option.map_id'.symm
  | cons op rest ih =>
    rw [List.foldl_cons, ih (s.step op), stream_step, Option.map_map, room_step]
    congr 1
    funext x
    by_cases hi : op.pair = i
    · simp only [Function.comp_apply, List.filter_cons, hi, decide_true, if_true,
        List.foldl_cons]
    · simp only [Function.comp_apply, List.filter_cons, hi, decide_false,
        Bool.false_eq_true, if_false]

/-- A bench as it is found, before anything is written or read. -/
def start (b : Bench) (buffers : Array Buffer) : Streams := { bench := b, buffers }

/-- **The bytes of a pair are conserved.** Nothing waits on the pair to begin with, and its ends may
be open or shut down; the operations are any, on this pair and on others. For the outcome neither
the contents of the buffers matter nor the other pairs and what is done to them. -/
theorem conserved_run (b : Bench) (buffers : Array Buffer) (pair : Nat) (p : SocketPair)
    (hp : b.sockets[pair]? = some p)
    (hempty : p.requests.waiting = [] ∧ p.replies.waiting = []) (ops : List Operation) :
    ∃ x, ((start b buffers).run ops).stream pair = some x ∧ x.Conserved ∧
      ∀ (b' : Bench) (buffers' : Array Buffer) (ops' : List Operation),
        b'.sockets[pair]? = some p → buffers'.map Buffer.size = buffers.map Buffer.size →
        ops'.filter (·.pair = pair) = ops.filter (·.pair = pair) →
        ((start b' buffers').run ops').stream pair = some x := by
  have hstart : ∀ b' buffers', b'.sockets[pair]? = some p →
      (start b' buffers').stream pair = some ⟨p, [], [], []⟩ := by
    intro b' buffers' hp'
    rw [start, stream, hp']
    rfl
  have hroom : ∀ (b' : Bench) buffers', buffers'.map Buffer.size = buffers.map Buffer.size →
      (start b' buffers').room = (start b buffers).room := by
    intro b' buffers' hsizes
    funext k
    show (buffers'[k]?.map Buffer.size).getD 0 = (buffers[k]?.map Buffer.size).getD 0
    rw [← Array.getElem?_map, ← Array.getElem?_map, hsizes]
  refine ⟨(ops.filter (·.pair = pair)).foldl (Stream.step (start b buffers).room) ⟨p, [], [], []⟩,
    ?_, ?_, ?_⟩
  · rw [stream_run, hstart b buffers hp]
    rfl
  · exact ((Stream.Accounted.start hempty).foldl _ _).conserved
  · intro b' buffers' ops' hp' hsizes hsame
    rw [stream_run, hstart b' buffers' hp', hroom b' buffers' hsizes, hsame]
    rfl

/-- One worker echoes on two pairs with a used buffer. Of the six bytes of one pair three come back;
the next one still waits to be read when that direction is closed, and the last two are lost. -/
theorem conserved_run_used_buffer :
    let b : Bench := { sockets := #[{}, {}] }
    let used : Buffer := (Buffer.zeroed 4).overwrite [9, 9, 9, 9]
    let ops : List Operation := [.write 0 [1, 2, 3, 4, 5, 6], .write 1 [7, 8], .echo 0 1,
      .echo 0 0, .read 0 3, .shutdown 0 .engine .write, .echo 0 0, .shutdown 1 .generator .both,
      .write 0 []]
    ∃ x, ((start b #[used]).run ops).stream 0 = some x ∧ x.Conserved ∧ x.Uncut ∧
      x.sent = [1, 2, 3, 4, 5, 6] ∧ x.received = [1, 2, 3] ∧ x.pair.replies.waiting = [4] ∧
      x.pair.requests.waiting = [] ∧
      ((start { sockets := #[{}] } #[.zeroed 4]).run (ops.filter (·.pair = 0))).stream 0 =
        some x := by
  intro b used ops
  obtain ⟨x, hx, hconserved, hothers⟩ :=
    conserved_run b #[used] 0 {} (by decide) (by decide) ops
  have hvalues : (((start b #[used]).run ops).stream 0).map (fun x =>
      (x.sent, x.received, x.pair.replies.waiting, x.pair.requests.waiting,
        x.replies)) =
      some ([1, 2, 3, 4, 5, 6], [1, 2, 3], [4], [],
        [⟨[1, 2, 3, 4], 4, true⟩, ⟨[5, 6], 0, false⟩]) := by
    decide
  rw [hx, Option.map_some, Option.some.injEq, Prod.mk.injEq, Prod.mk.injEq, Prod.mk.injEq,
    Prod.mk.injEq] at hvalues
  obtain ⟨hsent, hreceived, hback, hleft, hreplies⟩ := hvalues
  refine ⟨x, hx, hconserved, ?_, hsent, hreceived, hback, hleft,
    hothers _ _ _ (by decide) (by simp [used, Buffer.zeroed]) (by decide)⟩
  unfold Stream.Uncut
  rw [hreplies]
  decide

/-- Bytes are written, echoed one by one and not read back. After 278 of them no memory is left for
the next reply, and the byte is lost although replies can be written. When all others have been
read, the one after it comes in its place. -/
theorem not_conserved_unread_replies :
    let one (byte : UInt8) : List Operation := [.write 0 [byte], .echo 0 0]
    let ops : List Operation :=
      (List.replicate 279 (one 7)).flatten ++ .read 0 4096 :: one 8
    ∃ x, ((start { sockets := #[{}] } #[.zeroed 1]).run ops).stream 0 = some x ∧
      x.pair.replies.isOpen = true ∧
      x.received ++ x.pair.replies.waiting ++ x.pair.requests.waiting ≠ x.sent ∧
      ¬x.received ++ x.pair.replies.waiting <+: x.sent := by
  intro one ops
  let s := start { sockets := #[{}] } #[.zeroed 1]
  have hroom : s.room 0 = 1 := rfl
  obtain ⟨y, hy, hopen, hleft, hback, hsent⟩ :=
    (Stream.unread_run hroom (Nat.le_refl 278)).lost hroom
  have hnot : ¬y.received ++ y.pair.replies.waiting <+: y.sent := by
    rw [hback, hsent, List.append_assoc, List.prefix_append_right_inj]
    decide
  refine ⟨y, ?_, hopen, fun hsame => hnot ⟨_, hsame⟩, hnot⟩
  have hall : ops.filter (·.pair = 0) = ops := by
    rw [List.filter_eq_self]
    intro op hop
    have hpair : op ∈ one 7 ++ .read 0 4096 :: one 8 := by
      rcases List.mem_append.mp hop with hop | hop
      · obtain ⟨_, hmem, hop⟩ := List.mem_flatten.mp hop
        rw [List.eq_of_mem_replicate hmem] at hop
        exact List.mem_append_left _ hop
      · exact List.mem_append_right _ hop
    clear hop
    revert op
    decide
  have hlast (k : ℕ) : (List.replicate (k + 1) (one 7)).flatten ++ .read 0 4096 :: one 8 =
      (List.replicate k (one 7)).flatten ++
        [.write 0 [7], .echo 0 0, .read 0 4096, .write 0 [8], .echo 0 0] := by
    rw [List.replicate_succ', List.flatten_concat, List.append_assoc]
    rfl
  have hops : ops = (List.replicate 278 (one 7)).flatten ++
      [.write 0 [7], .echo 0 0, .read 0 4096, .write 0 [8], .echo 0 0] := hlast 278
  rw [stream_run, hall, hops, ← hy, ← List.foldl_append]
  rfl

end Streams

end ReadinessBench

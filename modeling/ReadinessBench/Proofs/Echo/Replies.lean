import ReadinessBench.Proofs.Echo.Basic

/-!
# What replies take with them

The result of a worker's write is thrown away, so a reply for which there is not memory enough is
cut, or lost as a whole. Here it is written down what each write was to take with it and what it
took: what has left the requests of a pair is what was to be taken, in the same order, and what has
come into its replies is what was taken (`Passed`). No reply is cut as long as there is memory for
one piece for each byte (`Roomy`).
-/

namespace ReadinessBench

/-- A write of a worker. -/
structure Reply where
  /-- What the worker has read. -/
  data : Bytes
  /-- How many bytes its write has got rid of; none if it failed. -/
  taken : Nat
  /-- Whether replies could be written at all. -/
  isOpen : Bool
  deriving DecidableEq

namespace Reply

def kept (r : Reply) : Bytes := r.data.take r.taken

/-- Everything came in, unless nothing could. -/
def IsWhole (r : Reply) : Prop := r.isOpen = true → r.taken = r.data.length

instance (r : Reply) : Decidable r.IsWhole := inferInstanceAs (Decidable (_ → _))

theorem kept_of_isWhole {r : Reply} (h : r.IsWhole) (hopen : r.isOpen = true) :
    r.kept = r.data := by
  rw [kept, h hopen, List.take_length]

theorem kept_sublist (rs : List Reply) : (rs.flatMap kept).Sublist (rs.flatMap data) := by
  induction rs with
  | nil => exact List.Sublist.refl []
  | cons r rest ih =>
    rw [List.flatMap_cons, List.flatMap_cons]
    exact (List.take_sublist _ _).append ih

/-- If as much is kept as was to be taken, then everything has been. -/
theorem taken_eq_of_length {rs : List Reply}
    (hlength : (rs.flatMap data).length ≤ (rs.flatMap kept).length) :
    ∀ r ∈ rs, r.data.length ≤ r.taken := by
  induction rs with
  | nil => nofun
  | cons r rest ih =>
    have hrest := (kept_sublist rest).length_le
    have hfirst : r.kept.length = min r.taken r.data.length := List.length_take
    rw [List.flatMap_cons, List.flatMap_cons, List.length_append, List.length_append] at hlength
    intro x hx
    rcases List.mem_cons.mp hx with rfl | hx
    · omega
    · exact ih (by omega) x hx

theorem flatMap_kept_of_isWhole {rs : List Reply} (hopen : ∀ r ∈ rs, r.isOpen = true)
    (hwhole : ∀ r ∈ rs, r.IsWhole) : rs.flatMap kept = rs.flatMap data :=
  List.flatMap_congr fun r hr => kept_of_isWhole (hwhole r hr) (hopen r hr)

end Reply

namespace SocketPair

/-- The write of an echo step with room for `n` bytes, if it comes to one. -/
def repliesOf (p : SocketPair) (n : Nat) : List Reply :=
  match p.takeRequest n with
  | ([], _) => []
  | (data, q) =>
    let taken := match q.reply data with
      | .ok (k, _) => k
      | .error _ => 0
    [⟨data, taken, q.replies.isOpen⟩]

theorem taken_reply (p : SocketPair) (data : Bytes) :
    (match p.reply data with
      | .ok (k, _) => k
      | .error _ => 0) = p.replies.takes p.blocking data.length := by
  rcases p.reply_cases data with ⟨⟨f, hfailed⟩, hnone⟩ | hreply
  · rw [hfailed, hnone]
  · rw [hreply]

theorem repliesOf_eq (p : SocketPair) (n : Nat) :
    p.repliesOf n = if p.requests.waiting.take n = [] then [] else
      [⟨p.requests.waiting.take n,
        p.replies.takes p.blocking (p.requests.waiting.take n).length, p.replies.isOpen⟩] := by
  have htake := p.takeRequest_eq n
  unfold repliesOf
  rw [htake]
  generalize p.requests.waiting.take n = data
  cases data with
  | nil => rfl
  | cons b rest =>
    rw [if_neg (List.cons_ne_nil b rest)]
    show [Reply.mk _ _ _] = _
    rw [taken_reply]

/-- From one state of a pair to a later one these replies were made, and nobody else acted. -/
structure Passed (p q : SocketPair) (rs : List Reply) : Prop where
  requests : p.requests.waiting = rs.flatMap Reply.data ++ q.requests.waiting
  replies : q.replies.waiting = p.replies.waiting ++ rs.flatMap Reply.kept
  requestsOpen : q.requests.isOpen = p.requests.isOpen
  repliesOpen : q.replies.isOpen = p.replies.isOpen
  blocking : q.blocking = p.blocking
  isOpen : ∀ r ∈ rs, r.isOpen = p.replies.isOpen
  taken_le : ∀ r ∈ rs, r.taken ≤ r.data.length
  closed : ∀ r ∈ rs, r.isOpen = false → r.taken = 0
  /-- A worker that waits for memory gets rid of its reply. -/
  waits : p.blocking = true → ∀ r ∈ rs, r.IsWhole

namespace Passed

variable {p q r : SocketPair} {rs more : List Reply}

theorem refl (p : SocketPair) : p.Passed p [] where
  requests := rfl
  replies := (List.append_nil _).symm
  requestsOpen := rfl
  repliesOpen := rfl
  blocking := rfl
  isOpen := nofun
  taken_le := nofun
  closed := nofun
  waits := nofun

theorem trans (h : p.Passed q rs) (h' : q.Passed r more) : p.Passed r (rs ++ more) where
  requests := by rw [h.requests, h'.requests, List.flatMap_append, List.append_assoc]
  replies := by rw [h'.replies, h.replies, List.flatMap_append, List.append_assoc]
  requestsOpen := h'.requestsOpen.trans h.requestsOpen
  repliesOpen := h'.repliesOpen.trans h.repliesOpen
  blocking := h'.blocking.trans h.blocking
  isOpen x hx := (List.mem_append.mp hx).elim (h.isOpen x)
    fun hx => (h'.isOpen x hx).trans h.repliesOpen
  taken_le x hx := (List.mem_append.mp hx).elim (h.taken_le x) (h'.taken_le x)
  closed x hx := (List.mem_append.mp hx).elim (h.closed x) (h'.closed x)
  waits hwaits x hx := (List.mem_append.mp hx).elim (h.waits hwaits x)
    (h'.waits (h.blocking.trans hwaits) x)

end Passed

/-- **One echo step passes on what its buffer has room for.** -/
theorem passed_afterEcho (p : SocketPair) (n : Nat) :
    p.Passed (p.afterEcho n) (p.repliesOf n) := by
  rw [repliesOf_eq]
  split
  · rename_i hnone
    have hsame : p.afterEcho n = { p with requests := p.requests.drop n } := by
      rw [afterEcho, hnone, ByteQueue.extend_nil]
    have hall : p.requests.waiting = p.requests.waiting.drop n := by
      conv_lhs => rw [← List.take_append_drop n p.requests.waiting, hnone, List.nil_append]
    rw [hsame]
    exact { Passed.refl p with requests := hall }
  · exact {
      requests := by simp [afterEcho, ByteQueue.drop]
      replies := by simp [afterEcho, ByteQueue.extend, Reply.kept]
      requestsOpen := rfl
      repliesOpen := rfl
      blocking := rfl
      isOpen := by simp
      taken_le := by
        intro r hr
        rw [List.mem_singleton.mp hr]
        exact p.replies.takes_le _ _
      closed := by
        intro r hr hclosed
        rw [List.mem_singleton.mp hr] at hclosed ⊢
        exact ByteQueue.takes_of_closed hclosed _ _
      waits := by
        intro hwaits r hr hopen
        rw [List.mem_singleton.mp hr] at hopen ⊢
        show p.replies.takes p.blocking _ = _
        rw [hwaits]
        exact ByteQueue.takes_waiting hopen _ }

end SocketPair

end ReadinessBench

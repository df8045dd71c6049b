import Mathlib.Data.List.Basic
import ReadinessBench.Socket.Echo

/-!
# Echo steps, whatever the buffer holds

What an echo step does to a pair depends on how much room the buffer has and not on what stands in
it: so many bytes leave the requests, and the replies take of them what they can. That is all of
them if the engines' end waits or there is memory enough, and none if nobody can read replies any
more.
-/

namespace ReadinessBench

theorem Piece.after_zero (pieces : List Piece) : Piece.after 0 pieces = pieces := by
  cases pieces with
  | nil => rfl
  | cons x rest =>
    rw [Piece.after, dif_pos x.unread_pos]
    rfl

namespace ByteQueue

variable {q : ByteQueue}

theorem drop_zero (q : ByteQueue) : q.drop 0 = q := by
  apply ByteQueue.ext
  · rfl
  · rfl
  · rfl
  · exact Piece.after_zero _

theorem drop_of_empty (h : q.waiting = []) (n : Nat) : q.drop n = q := by
  apply ByteQueue.ext
  · show q.waiting.drop n = q.waiting
    rw [h, List.drop_nil]
  · rfl
  · rfl
  · show Piece.after n q.pieces = q.pieces
    rw [q.pieces_eq_nil h]
    rfl

theorem extend_nil (q : ByteQueue) (waits : Bool) : q.extend waits [] = q :=
  extend_of_takes_eq_zero (Nat.le_zero.mp (q.takes_le waits 0))

theorem read_eq (q : ByteQueue) (n : Nat) :
    (q.read n).1.data = q.waiting.take n ∧ (q.read n).2 = q.drop n := by
  unfold read
  split
  · rename_i hempty
    have hnil : q.waiting = [] := List.isEmpty_iff.mp hempty
    rw [drop_of_empty hnil, hnil, List.take_nil]
    refine ⟨?_, rfl⟩
    dsimp only
    split <;> rfl
  · exact ⟨rfl, rfl⟩

end ByteQueue

namespace SocketPair

/-- The pair after an echo step with room for `n` bytes. -/
def afterEcho (p : SocketPair) (n : Nat) : SocketPair :=
  { p with
    requests := p.requests.drop n
    replies := p.replies.extend p.blocking (p.requests.waiting.take n) }

theorem takeRequest_eq (p : SocketPair) (n : Nat) :
    p.takeRequest n = (p.requests.waiting.take n, { p with requests := p.requests.drop n }) := by
  obtain ⟨hdata, hrest⟩ := p.requests.read_eq n
  rw [← hdata, ← hrest]
  rfl

/-- A write at the engines' end fails without having got rid of anything, or it says how much the
replies have taken. -/
theorem reply_cases (p : SocketPair) (data : Bytes) :
    (∃ f, p.reply data = .error f) ∧ p.replies.takes p.blocking data.length = 0 ∨
      p.reply data = .ok (p.replies.takes p.blocking data.length,
        { p with replies := p.replies.extend p.blocking data }) := by
  obtain ⟨requests, replies, blocking⟩ := p
  cases hopen : replies.isOpen with
  | false =>
    refine Or.inl ⟨⟨ByteQueue.refusal, ?_⟩, ByteQueue.takes_of_closed hopen _ _⟩
    cases blocking <;> simp [reply, ByteQueue.write, ByteQueue.offer, hopen, Except.map]
  | true =>
    cases blocking with
    | true =>
      refine Or.inr ?_
      simp [reply, ByteQueue.write, hopen, Except.map, ByteQueue.takes_waiting hopen]
    | false =>
      by_cases hnone : (replies.takes false data.length = 0 && !data.isEmpty) = true
      · have htaken := (Bool.and_eq_true_iff.mp hnone).1
        refine Or.inl ⟨⟨.errno Errno.tryAgain, ?_⟩, of_decide_eq_true htaken⟩
        simp only [reply, ByteQueue.offer, hopen, hnone, Except.map, if_true, Bool.false_eq_true,
          if_false]
      · refine Or.inr ?_
        simp only [reply, ByteQueue.offer, hopen, hnone, Except.map, if_true, Bool.false_eq_true,
          if_false]

theorem putReply_eq (p : SocketPair) (data : Bytes) :
    p.putReply data = { p with replies := p.replies.extend p.blocking data } := by
  unfold putReply
  rcases p.reply_cases data with ⟨⟨f, hfailed⟩, hnone⟩ | hreply
  · rw [hfailed, ByteQueue.extend_of_takes_eq_zero hnone]
  · rw [hreply]

theorem echo_eq (p : SocketPair) (buffer : Buffer) :
    (p.echo buffer).1 = !(p.requests.waiting.take buffer.size).isEmpty ∧
      (p.echo buffer).2.1.size = buffer.size ∧
      (p.echo buffer).2.2 = p.afterEcho buffer.size := by
  have htake := p.takeRequest_eq buffer.size
  cases hdata : p.requests.waiting.take buffer.size with
  | nil =>
    rw [hdata] at htake
    simp [echo, htake, afterEcho, hdata, ByteQueue.extend_nil]
  | cons b rest =>
    rw [hdata] at htake
    simp [echo, htake, afterEcho, hdata, putReply_eq]

/-- Something is echoed when there is something to echo and room for it. -/
theorem echo_true_iff (p : SocketPair) (buffer : Buffer) :
    (p.echo buffer).1 = true ↔ p.requests.waiting ≠ [] ∧ 0 < buffer.size := by
  rw [(p.echo_eq buffer).1]
  simp [List.take_eq_nil_iff, Nat.pos_iff_ne_zero, and_comm]

theorem afterEcho_zero (p : SocketPair) : p.afterEcho 0 = p := by
  rw [afterEcho, ByteQueue.drop_zero, List.take_zero, ByteQueue.extend_nil]

end SocketPair

end ReadinessBench

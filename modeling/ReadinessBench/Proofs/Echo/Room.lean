import Mathlib.Data.List.Basic
import ReadinessBench.Proofs.Echo.Replies

/-!
# When there is memory for a reply

A write that does not wait comes in whole if and only if there is memory left before its last piece
(`fitting_eq_self_iff`). No way to cut it takes more memory than one piece for each byte, so this is
all that has to be left for a queue to take so many bytes, in whatever writes they come.
-/

namespace ReadinessBench

namespace Piece

@[simp] theorem memoryOf_append (xs ys : List Piece) :
    memoryOf (xs ++ ys) = memoryOf xs + memoryOf ys :=
  sumOf_append memory xs ys

theorem memoryOf_le {pieces : List Piece} {c : Nat} (h : ∀ x ∈ pieces, x.memory ≤ x.unread * c) :
    memoryOf pieces ≤ bytesOf pieces * c := by
  induction pieces with
  | nil => exact Nat.zero_le _
  | cons x rest ih =>
    have hfirst := h x List.mem_cons_self
    have hrest := ih fun y hy => h y (List.mem_cons_of_mem x hy)
    show x.memory + memoryOf rest ≤ (x.unread + bytesOf rest) * c
    rw [Nat.add_mul]
    omega

theorem bytesOf_dropLast (pieces : List Piece) :
    bytesOf pieces.dropLast ≤ bytesOf pieces - 1 := by
  rcases pieces.eq_nil_or_concat' with rfl | ⟨front, x, rfl⟩
  · exact Nat.le_refl _
  · have hpos := x.unread_pos
    have hlast : bytesOf [x] = x.unread := rfl
    rw [List.dropLast_concat, bytesOf_append, hlast]
    omega

theorem memoryOf_after_le (n : Nat) (pieces : List Piece) :
    memoryOf (after n pieces) ≤ memoryOf pieces := by
  induction pieces generalizing n with
  | nil => exact Nat.le_refl _
  | cons x rest ih =>
    rw [after]
    split
    · exact Nat.le_refl _
    · exact Nat.le_trans (ih _) (Nat.le_add_left _ _)

end Piece

namespace QueueMemory

variable {m : QueueMemory}

theorem fitting_eq_self_iff {used : Nat} {pieces : List Piece} :
    m.fitting used pieces = pieces ↔
      pieces = [] ∨ used + Piece.memoryOf pieces.dropLast < m.limit := by
  induction pieces generalizing used with
  | nil => exact iff_of_true rfl (Or.inl rfl)
  | cons x rest ih =>
    rw [fitting, eq_false (List.cons_ne_nil x rest), false_or]
    cases rest with
    | nil =>
      show _ ↔ used + 0 < m.limit
      split
      · rename_i hroom
        exact iff_of_true rfl hroom
      · rename_i hfull
        exact iff_of_false (List.cons_ne_nil _ _).symm hfull
    | cons y more =>
      have hmemory : used + Piece.memoryOf (x :: y :: more).dropLast =
          used + x.memory + Piece.memoryOf (y :: more).dropLast := (Nat.add_assoc ..).symm
      rw [hmemory]
      split
      · rw [List.cons.injEq, ih, and_iff_right rfl, eq_false (List.cons_ne_nil y more), false_or]
      · rename_i hfull
        exact iff_of_false (List.cons_ne_nil _ _).symm (by omega)

/-- No piece takes more memory than its bytes would take one by one. -/
def IsFair (m : QueueMemory) : Prop := ∀ n, 0 < n → m.charge n ≤ n * m.charge 1

theorem IsFair.cut (h : m.IsFair) {n : Nat} {x : Piece} (hx : x ∈ m.cut n) :
    x.memory ≤ x.unread * m.charge 1 := by
  rcases List.mem_append.mp hx with hx | hx
  · rw [List.eq_of_mem_replicate hx]
    exact h _ m.pieceSize_pos
  · split at hx
    · rename_i hpos
      rw [List.mem_singleton.mp hx]
      exact h _ hpos
    · cases hx

/-- The usual numbers are fair. -/
theorem isFair_default : IsFair {} := by
  intro n hn
  have hone : charge {} 1 = 768 := by decide
  have hblock : ∀ k, block {} k ≤ 768 * k ∨ k = 0 ∧ block {} k = 768 := by
    intro k
    by_cases h192 : k ≤ 192
    · simp [block, h192]
      omega
    by_cases h704 : k ≤ 704
    · simp [block, h192, h704]
      omega
    by_cases h1728 : k ≤ 1728
    · simp [block, h192, h704, h1728]
      omega
    by_cases h3776 : k ≤ 3776
    · simp [block, h192, h704, h1728, h3776]
      omega
    · simp [block, h192, h704, h1728, h3776]
      omega
  rw [hone]
  show block {} (n - min n ((n - 3776 + 4096 - 1) / 4096 * 4096)) +
    min n ((n - 3776 + 4096 - 1) / 4096 * 4096) ≤ n * 768
  -- only what is too long for a block has pages
  have hpaged : (n - 3776 + 4096 - 1) / 4096 * 4096 = 0 ∨ 3776 < n := by omega
  have hthis := hblock (n - min n ((n - 3776 + 4096 - 1) / 4096 * 4096))
  omega

/-- A queue in which nothing waits takes so many bytes at once. -/
def Holds (m : QueueMemory) (n : Nat) : Prop := m.fitting 0 (m.cut n) = m.cut n

instance (m : QueueMemory) (n : Nat) : Decidable (m.Holds n) := inferInstanceAs (Decidable (_ = _))

/-- With the usual numbers it does so if they make up no more than six pieces. -/
theorem holds_default {n : Nat} (h : n ≤ 219264) : Holds {} n := by
  have hsize : pieceSize {} = 36544 := rfl
  have hcharge : charge {} 36544 = 37120 := by decide
  -- all pieces but the last are whole ones, and there are five of them at most
  obtain ⟨k, hk, hpieces⟩ : ∃ k ≤ 5, Piece.memoryOf (cut {} n).dropLast = k * 37120 := by
    have hwhole : ∀ k, Piece.memoryOf (List.replicate k
        ⟨pieceSize {}, charge {} (pieceSize {}), pieceSize_pos {}⟩) = k * 37120 := by
      intro k
      rw [Piece.memoryOf, Piece.sumOf_replicate]
      show k * charge {} 36544 = _
      rw [hcharge]
    unfold cut
    split
    · rename_i hrest
      rw [hsize] at hrest
      refine ⟨n / pieceSize {}, by rw [hsize]; omega, ?_⟩
      rw [List.dropLast_concat, hwhole]
    · refine ⟨n / pieceSize {} - 1, by rw [hsize]; omega, ?_⟩
      rw [List.append_nil, List.dropLast_replicate, hwhole]
  rw [Holds, fitting_eq_self_iff, hpieces]
  refine Or.inr ?_
  show 0 + k * 37120 < 212992
  omega

end QueueMemory

namespace ByteQueue

variable {q : ByteQueue}

theorem takes_eq_of_fitting {n : Nat} (hopen : q.isOpen = true)
    (hfits : q.memory.fitting q.used (q.memory.cut n) = q.memory.cut n) (waits : Bool) :
    q.takes waits n = n := by
  unfold takes intake
  rw [if_pos hopen, hfits, ite_self, QueueMemory.bytesOf_cut]

/-- An empty queue takes what its memory holds. -/
theorem takes_of_holds {n : Nat} (hopen : q.isOpen = true) (hempty : q.waiting = [])
    (hholds : q.memory.Holds n) (waits : Bool) : q.takes waits n = n := by
  apply takes_eq_of_fitting hopen
  rw [used, q.pieces_eq_nil hempty]
  exact hholds

/-- With memory for a piece for each byte, a write comes in whole. -/
theorem takes_of_isFair {n : Nat} (hopen : q.isOpen = true) (hfair : q.memory.IsFair)
    (hroom : q.used + (n - 1) * q.memory.charge 1 < q.memory.limit) (waits : Bool) :
    q.takes waits n = n := by
  apply takes_eq_of_fitting hopen
  rw [QueueMemory.fitting_eq_self_iff]
  refine Or.inr (Nat.lt_of_le_of_lt (Nat.add_le_add_left ?_ _) hroom)
  have hpieces : ∀ x ∈ (q.memory.cut n).dropLast, x.memory ≤ x.unread * q.memory.charge 1 :=
    fun x hx => hfair.cut (List.dropLast_subset _ hx)
  have hbytes := Piece.bytesOf_dropLast (q.memory.cut n)
  rw [QueueMemory.bytesOf_cut] at hbytes
  exact Nat.le_trans (Piece.memoryOf_le hpieces) (Nat.mul_le_mul_right _ hbytes)

theorem used_extend_le (hfair : q.memory.IsFair) (waits : Bool) (data : Bytes) :
    (q.extend waits data).used ≤
      q.used + q.takes waits data.length * q.memory.charge 1 := by
  show Piece.memoryOf (q.pieces ++ q.intake waits data.length) ≤ _
  rw [Piece.memoryOf_append]
  refine Nat.add_le_add_left (Piece.memoryOf_le fun x hx => ?_) _
  unfold intake at hx
  split at hx
  · split at hx
    · exact hfair.cut hx
    · exact hfair.cut ((q.memory.fitting_prefix _ _).subset hx)
  · cases hx

/-- With the usual numbers a reply of one byte takes 768 bytes of memory, or it is lost. -/
theorem extend_one (hopen : q.isOpen = true) (hmemory : q.memory = {}) (byte : UInt8) :
    if q.used < 212992 then (q.extend false [byte]).waiting = q.waiting ++ [byte] ∧
      (q.extend false [byte]).used = q.used + 768
    else q.extend false [byte] = q := by
  have hcut : q.memory.cut 1 = [⟨1, 768, Nat.one_pos⟩] := by
    rw [hmemory]
    decide
  have hintake : q.intake false 1 = if q.used < 212992 then [⟨1, 768, Nat.one_pos⟩] else [] := by
    rw [intake, if_pos hopen, if_neg Bool.false_ne_true, hcut, QueueMemory.fitting, hmemory]
    rfl
  split
  · rename_i hroom
    rw [if_pos hroom] at hintake
    refine ⟨waiting_extend_of_takes (congrArg Piece.bytesOf hintake), ?_⟩
    show Piece.memoryOf (q.pieces ++ q.intake false 1) = _
    rw [Piece.memoryOf_append, hintake]
    rfl
  · rename_i hfull
    rw [if_neg hfull] at hintake
    exact extend_of_takes_eq_zero (congrArg Piece.bytesOf hintake)

/-- Where there is memory for one more piece, the first of two such replies comes in. -/
theorem extend_one_one (hopen : q.isOpen = true) (hmemory : q.memory = {})
    (hroom : q.used < 212992) (hlast : 212992 ≤ q.used + 768) (first second : UInt8) :
    ((q.extend false [first]).extend false [second]).waiting = q.waiting ++ [first] := by
  have hfirst := extend_one hopen hmemory first
  rw [if_pos hroom] at hfirst
  have hsecond := extend_one (q := q.extend false [first]) hopen hmemory second
  rw [hfirst.2, if_neg (by omega)] at hsecond
  rw [hsecond, hfirst.1]

end ByteQueue

namespace SocketPair

variable {p : SocketPair}

/-- A reply of so many bytes comes in whole if no other waits. -/
def HasRoom (p : SocketPair) (n : Nat) : Prop := p.blocking = true ∨ p.replies.memory.Holds n

instance (p : SocketPair) (n : Nat) : Decidable (p.HasRoom n) :=
  inferInstanceAs (Decidable (_ ∨ _))

theorem HasRoom.openWith {data : Bytes} (h : p.HasRoom data.length)
    (hempty : p.replies.OpenWith []) : (p.replies.extend p.blocking data).OpenWith data := by
  apply hempty.extend
  rcases h with hwaits | hholds
  · rw [hwaits]
    exact ByteQueue.takes_waiting hempty.2 _
  · exact ByteQueue.takes_of_holds hempty.2 hempty.1 hholds _

theorem used_afterEcho_le (hfair : p.replies.memory.IsFair) (n : Nat) :
    (p.afterEcho n).replies.used ≤ p.replies.used +
      ((p.repliesOf n).flatMap Reply.kept).length * p.replies.memory.charge 1 := by
  have hused := ByteQueue.used_extend_le hfair p.blocking (p.requests.waiting.take n)
  have htakes := p.replies.takes_le p.blocking (p.requests.waiting.take n).length
  rw [repliesOf_eq]
  split
  · rename_i hnone
    show (p.replies.extend p.blocking (p.requests.waiting.take n)).used ≤ _
    rw [hnone, ByteQueue.extend_nil]
    exact Nat.le_add_right _ _
  · rw [List.flatMap_singleton, Reply.kept, List.length_take, Nat.min_eq_left htakes]
    exact hused

/-- There is memory for a reply to everything that waits, in whatever parts it comes. -/
def Roomy (p : SocketPair) : Prop :=
  p.replies.isOpen = true → p.blocking = true ∨ p.requests.waiting = [] ∨
    p.replies.memory.IsFair ∧
      p.replies.used + (p.requests.waiting.length - 1) * p.replies.memory.charge 1 <
        p.replies.memory.limit

theorem Roomy.isWhole (h : p.Roomy) {n : Nat} {r : Reply} (hr : r ∈ p.repliesOf n) :
    r.IsWhole := by
  have hlength : (p.requests.waiting.take n).length - 1 ≤ p.requests.waiting.length - 1 :=
    Nat.sub_le_sub_right (List.length_take_le' n _) 1
  intro hopen
  rw [repliesOf_eq] at hr
  split at hr
  · cases hr
  · rename_i hsome
    rw [List.mem_singleton.mp hr] at hopen ⊢
    show p.replies.takes p.blocking _ = _
    rcases h hopen with hwaits | hnone | ⟨hfair, hroom⟩
    · rw [hwaits]
      exact ByteQueue.takes_waiting hopen _
    · exact absurd (by rw [hnone, List.take_nil]) hsome
    · apply ByteQueue.takes_of_isFair hopen hfair
      have hless := Nat.mul_le_mul_right (p.replies.memory.charge 1) hlength
      omega

theorem Roomy.afterEcho (h : p.Roomy) (n : Nat) : (p.afterEcho n).Roomy := by
  intro hopen
  rcases h hopen with hwaits | hnone | ⟨hfair, hroom⟩
  · exact Or.inl hwaits
  · refine Or.inr (Or.inl ?_)
    show p.requests.waiting.drop n = []
    rw [hnone, List.drop_nil]
  · by_cases hleft : p.requests.waiting.drop n = []
    · exact Or.inr (Or.inl hleft)
    refine Or.inr (Or.inr ⟨hfair, ?_⟩)
    show (p.replies.extend p.blocking (p.requests.waiting.take n)).used +
      ((p.requests.waiting.drop n).length - 1) * p.replies.memory.charge 1 <
        p.replies.memory.limit
    -- what the reply has taken in memory no longer waits as requests
    have hused := ByteQueue.used_extend_le hfair p.blocking (p.requests.waiting.take n)
    have htakes := p.replies.takes_le p.blocking (p.requests.waiting.take n).length
    have hpos := List.length_pos_iff.mpr hleft
    rw [List.length_drop] at hpos ⊢
    rw [List.length_take] at hused htakes
    have hbytes : p.replies.takes p.blocking (min n p.requests.waiting.length) +
        (p.requests.waiting.length - n - 1) ≤ p.requests.waiting.length - 1 := by omega
    have hmemory := Nat.mul_le_mul_right (p.replies.memory.charge 1) hbytes
    rw [Nat.add_mul] at hmemory
    omega

end SocketPair

end ReadinessBench

import ReadinessBench.Socket.Echo

/-!
# Workers between the halves of an echo step

A worker reads a request into its buffer and afterwards writes back from there as many bytes as it
has read. Between the two halves it owes a reply, and any other worker may act. Whatever mechanism
a worker waits with, this is all that it does to a pair.

Taken together, the two halves are the echo step (`echo_eq_halves`).
-/

namespace ReadinessBench

/-- A reply that is still to be written. -/
structure Debt where
  pair : Nat
  /-- How many bytes in the front of the buffer make up the reply. -/
  size : Nat
  deriving DecidableEq, Repr

/-- A worker that echoes on the pairs it watches. -/
structure EchoWorker where
  /-- The positions of the watched pairs. -/
  watched : List Nat
  buffer : Buffer
  owed : Option Debt := none
  deriving DecidableEq

namespace EchoWorker

/-- The bytes that the worker has read and not written back. -/
def inHand (w : EchoWorker) : Bytes :=
  match w.owed with
  | some d => w.buffer.contents.take d.size
  | none => []

/-- What the worker has in hand of a pair. -/
def inHandOf (w : EchoWorker) (pair : Nat) : Bytes :=
  match w.owed with
  | some d => if d.pair = pair then w.inHand else []
  | none => []

/-- The reading half of an echo step. If there is nothing to read, nothing is owed. -/
def fetch (w : EchoWorker) (pair : Nat) (p : SocketPair) : EchoWorker × SocketPair :=
  match p.takeRequest w.buffer.size with
  | ([], p) => (w, p)
  | (data, p) =>
    ({ w with buffer := w.buffer.overwrite data, owed := some ⟨pair, data.length⟩ }, p)

/-- The writing half of an echo step. -/
def deliver (w : EchoWorker) (p : SocketPair) : EchoWorker × SocketPair :=
  ({ w with owed := none }, p.putReply w.inHand)

theorem fetch_of_nil {w : EchoWorker} {p q : SocketPair}
    (htake : p.takeRequest w.buffer.size = ([], q)) (pair : Nat) : w.fetch pair p = (w, q) := by
  rw [fetch, htake]

theorem fetch_of_ne_nil {w : EchoWorker} {p q : SocketPair} {data : Bytes} (hne : data ≠ [])
    (htake : p.takeRequest w.buffer.size = (data, q)) (pair : Nat) :
    w.fetch pair p =
      ({ w with buffer := w.buffer.overwrite data, owed := some ⟨pair, data.length⟩ }, q) := by
  obtain ⟨b, rest, rfl⟩ := List.exists_cons_of_ne_nil hne
  rw [fetch, htake]

/-- What a worker has in hand after its reading half is what it has read, whatever stood in its
buffer before. -/
theorem inHand_overwrite (w : EchoWorker) (pair : Nat) (data : Bytes)
    (hfit : data.length ≤ w.buffer.size) :
    inHand { w with buffer := w.buffer.overwrite data, owed := some ⟨pair, data.length⟩ } =
      data :=
  Buffer.take_contents_overwrite w.buffer data hfit

/-- **The two halves, one right after the other, are the echo step.** -/
theorem echo_eq_halves (w : EchoWorker) (pair : Nat) (p : SocketPair) (hidle : w.owed = none) :
    p.echo w.buffer =
      let (reader, q) := w.fetch pair p
      (reader.owed.isSome, reader.buffer,
        if reader.owed.isSome then (reader.deliver q).2 else q) := by
  have hfit := p.length_takeRequest_le w.buffer.size
  obtain ⟨data, q, htake⟩ : ∃ data q, p.takeRequest w.buffer.size = (data, q) := ⟨_, _, rfl⟩
  rw [htake] at hfit
  cases data with
  | nil =>
      rw [fetch_of_nil htake]
      simp only [SocketPair.echo, htake, hidle, Option.isSome_none, Bool.false_eq_true, if_false]
  | cons b rest =>
      rw [fetch_of_ne_nil (List.cons_ne_nil b rest) htake]
      simp only [SocketPair.echo, htake, Option.isSome_some, if_true, deliver,
        inHand_overwrite w pair (b :: rest) hfit]

end EchoWorker

end ReadinessBench

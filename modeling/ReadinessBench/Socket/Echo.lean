import ReadinessBench.Socket.Pair

/-!
# The echo step

What an engine does with a readable pair: it reads up to a buffer of bytes and writes back exactly
what it read. The two halves are separate steps, because another engine may act between them.

A miss is not an error: there may be nothing to read because another engine was faster, or because
the other end is gone. Of a reply that cannot be written, the part that cannot is lost.
-/

namespace ReadinessBench

namespace SocketPair

/-- The reading half: the bytes read, none if there is nothing to echo. -/
def takeRequest (p : SocketPair) (n : Nat) : Bytes × SocketPair :=
  let (r, p) := p.accept n
  (r.data, p)

def putReply (p : SocketPair) (data : Bytes) : SocketPair :=
  match p.reply data with
  | .ok (_, p) => p
  | .error _ => p

/-- One echo step with `buffer`: whether anything was echoed, the buffer afterwards, and the
pair. -/
def echo (p : SocketPair) (buffer : Buffer) : Bool × Buffer × SocketPair :=
  match p.takeRequest buffer.size with
  | ([], p) => (false, buffer, p)
  | (data, p) => (true, buffer.overwrite data, p.putReply data)

/-- The engines' end would make a reader of `n` bytes wait for data. -/
def wouldWait (p : SocketPair) (n : Nat) : Bool :=
  0 < n && p.blocking && !p.requests.isReadable

theorem takeRequest_empty {p : SocketPair} (hempty : p.requests.OpenWith []) (n : Nat) :
    p.takeRequest n = ([], p) := by
  rw [takeRequest, accept, ByteQueue.read_empty hempty]
  rfl

theorem takeRequest_all {p : SocketPair} {data : Bytes} (hrequests : p.requests.OpenWith data)
    (hne : data ≠ []) {n : Nat} (hfit : data.length ≤ n) :
    p.takeRequest n = (data, { p with requests := p.requests.drop n }) := by
  rw [takeRequest, accept, (ByteQueue.read_all hrequests hne hfit).1]
  rfl

theorem length_takeRequest_le (p : SocketPair) (n : Nat) : (p.takeRequest n).1.length ≤ n :=
  p.requests.length_read_le n

end SocketPair

end ReadinessBench

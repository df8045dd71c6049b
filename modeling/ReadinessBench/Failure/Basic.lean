import ReadinessBench.Failure.Errno

/-!
# Failed calls

Why a call to the operating system or to the allocator failed. A failure carries a number of the
operating system, a bare kind, or a kind with a text of its own.
-/

namespace ReadinessBench

/-- Kinds of failures that need no number. -/
inductive FailureKind where
  | brokenPipe
  | wouldBlock
  | interrupted
  | timedOut
  | unexpectedEof
  | outOfMemory
  | notFound
  | permissionDenied
  | connectionReset
  | invalidInput
  | other
  deriving DecidableEq, Repr

def FailureKind.text : FailureKind → String
  | brokenPipe => "broken pipe"
  | wouldBlock => "operation would block"
  | interrupted => "operation interrupted"
  | timedOut => "timed out"
  | unexpectedEof => "unexpected end of file"
  | outOfMemory => "out of memory"
  | notFound => "entity not found"
  | permissionDenied => "permission denied"
  | connectionReset => "connection reset"
  | invalidInput => "invalid input parameter"
  | other => "other error"

inductive Failure where
  /-- The operating system gave this number. -/
  | errno (code : Int)
  | plain (kind : FailureKind)
  /-- A failure with a text of its own. -/
  | worded (kind : FailureKind) (text : String)
  deriving DecidableEq, Repr

namespace Failure

def text : Failure → String
  | errno code => s!"{Errno.text code} (os error {code})"
  | plain kind => kind.text
  | worded _ t => t

def errno? : Failure → Option Int
  | errno code => some code
  | _ => none

/-- The call was interrupted before it did anything and can simply be repeated. -/
def isInterruption : Failure → Bool
  | errno code => code = Errno.interrupted
  | plain kind => kind = .interrupted
  | worded kind _ => kind = .interrupted

def isWouldBlock : Failure → Bool
  | errno code => code = Errno.tryAgain
  | plain kind => kind = .wouldBlock
  | worded kind _ => kind = .wouldBlock

/-- Repeating the same request makes the failure go away. -/
def isTransient (f : Failure) : Bool :=
  f.isInterruption || f.isWouldBlock

end Failure

end ReadinessBench

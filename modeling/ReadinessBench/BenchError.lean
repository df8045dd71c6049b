import ReadinessBench.Failure.Basic
import ReadinessBench.Text.Quoted

/-!
# Errors of the benchmark

Each error is its cause; its text is written in one place. Errors fall into three classes: the
configuration was refused, a resource could not be had, or the traffic itself went wrong.
-/

namespace ReadinessBench

/-- Why the benchmark could not do what it was asked to. -/
inductive BenchError where
  | unknownEngine (name : String)
  | invalidOption (option : String)
  | unsupportedExclusive (engine : String)
  /-- The engine cannot watch a descriptor with so large a number. -/
  | capacityExceeded (engine : String) (number : Int) (limit : Nat)
  /-- Something the benchmark needs could not be had. -/
  | resource (context : String) (source : Failure)
  /-- A transfer moved a different number of bytes than one message has. -/
  | ioFault (operation : String) (expected transferred : Nat) (source : Option Failure)
  deriving DecidableEq, Repr

namespace BenchError

inductive Class where
  | configuration
  | resource
  | ioFault
  deriving DecidableEq, Repr

def classOf : BenchError → Class
  | unknownEngine _ | invalidOption _ | unsupportedExclusive _ | capacityExceeded .. =>
    .configuration
  | resource .. => .resource
  | ioFault .. => .ioFault

def message : BenchError → String
  | unknownEngine name => s!"unknown engine {Text.quoted name}"
  | invalidOption option => s!"invalid {option}: must be greater than zero"
  | unsupportedExclusive engine => s!"{engine} engine does not support exclusive=1"
  | capacityExceeded engine number limit =>
    s!"maximum number of fds exceeded for {engine} engine (fd {number} is not below {limit})"
  | resource context _ => context
  | ioFault operation expected transferred _ =>
    s!"{operation} failed after {transferred} of {expected} bytes"

def source : BenchError → Option Failure
  | resource _ f => some f
  | ioFault _ _ _ f => f
  | _ => none

def chain (e : BenchError) : List String :=
  e.message :: (e.source.map Failure.text).toList

end BenchError

end ReadinessBench

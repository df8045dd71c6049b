import ReadinessBench.Plan

/-!
# Options of the command line

The options with a value and the options without one, what they are called, what they say about
themselves, and what values they take.
-/

namespace ReadinessBench.Command

/-- The options that take a value. -/
inductive ValueOption where
  | engine
  | engines
  | pairs
  | messageSize
  | exclusive
  | duration
  deriving DecidableEq, Repr

/-- The options that stand for themselves. -/
inductive Toggle where
  | verbose
  | help
  | version
  deriving DecidableEq, Repr

namespace ValueOption

def all : List ValueOption := [engine, engines, pairs, messageSize, exclusive, duration]

def long : ValueOption → String
  | engine => "engine"
  | engines => "num-engines"
  | pairs => "num-fds"
  | messageSize => "msg-size"
  | exclusive => "exclusive"
  | duration => "duration-secs"

def placeholder : ValueOption → String
  | engine => "NAME"
  | engines | pairs => "N"
  | messageSize => "BYTES"
  | exclusive => "0|1"
  | duration => "SECS"

def shown (o : ValueOption) : String := s!"--{o.long} <{o.placeholder}>"

def about : ValueOption → String
  | engine => "Readiness monitoring mechanism to benchmark"
  | engines => "Number of engine instances watching the same descriptors"
  | pairs => "Number of descriptor pairs carrying traffic"
  | messageSize => "Bytes per message"
  | exclusive => "Request exclusive wakeups (0 or 1). Only epoll and io_uring support this"
  | duration => "How long to run the workload"

def standard : ValueOption → String
  | engine => "select"
  | engines | pairs | messageSize => "1"
  | exclusive => "0"
  | duration => "30"

end ValueOption

namespace Toggle

def all : List Toggle := [verbose, help, version]

def long : Toggle → String
  | verbose => "verbose"
  | help => "help"
  | version => "version"

def letter : Toggle → Char
  | verbose => 'v'
  | help => 'h'
  | version => 'V'

/-- The option as messages show it. One that may be repeated says so. -/
def shown : Toggle → String
  | verbose => "--verbose..."
  | help => "--help"
  | version => "--version"

end Toggle

inductive CommandOption where
  | valued (o : ValueOption)
  | plain (t : Toggle)
  deriving DecidableEq, Repr

namespace CommandOption

def shown : CommandOption → String
  | valued o => o.shown
  | plain t => t.shown

/-- The options that describe a run, in the order of the help. The other two end the program. -/
def ofRun : List CommandOption := ValueOption.all.map valued ++ [plain .verbose]

end CommandOption

structure Arguments where
  mechanism : Mechanism := .standard
  engines : Nat := 1
  pairs : Nat := 1
  messageSize : Nat := 1
  exclusive : Bool := false
  durationSecs : UInt64 := 30
  /-- How often more detail was asked for, at most 255 times. -/
  verbosity : Nat := 0
  deriving DecidableEq

/-! ## Values -/

/-- Why a text is no positive 64-bit number. -/
inductive CountError where
  | empty
  | invalidDigit
  | tooLarge
  | zero
  deriving DecidableEq, Repr

def CountError.message : CountError → String
  | empty => "cannot parse integer from empty string"
  | invalidDigit => "invalid digit found in string"
  | tooLarge => "number too large to fit in target type"
  | zero => "number would be zero for non-zero type"

/-- Reads decimal digits from left to right onto `value`. What comes first decides: a character
that is no digit, or a digit with which the number leaves 64 bits. -/
def readDigits (value : Nat) : List Char → Except CountError Nat
  | [] => .ok value
  | c :: rest =>
    if c.isDigit then
      let value := 10 * value + (c.toNat - '0'.toNat)
      if value < UInt64.size then readDigits value rest else .error .tooLarge
    else .error .invalidDigit

/-- Reads a 64-bit number: decimal digits, with one plus sign in front if need be. -/
def readNumber : List Char → Except CountError Nat
  | [] => .error .empty
  | ['+'] => .error .invalidDigit
  | '+' :: digits => readDigits 0 digits
  | digits => readDigits 0 digits

def readCount (text : String) : Except CountError Nat :=
  match readNumber text.toList with
  | .error e => .error e
  | .ok 0 => .error .zero
  | .ok n => .ok n

/-- Reads a flag that is given as a digit. -/
def readFlag (text : String) : Except String Bool :=
  if text = "0" then .ok false
  else if text = "1" then .ok true
  else .error s!"expected 0 or 1, got {Text.quoted text}"

/-! ## Plans -/

def Arguments.draft (a : Arguments) : Draft where
  mechanism := a.mechanism
  engines := a.engines
  pairs := a.pairs
  messageSize := a.messageSize
  exclusive := a.exclusive
  duration := .ofSeconds a.durationSecs

end ReadinessBench.Command

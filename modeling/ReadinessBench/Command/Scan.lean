import ReadinessBench.Command.Arguments

/-!
# Reading the command line

The arguments are read once, from left to right. An option waits for its value until the next
argument; the value itself is looked at when the next option comes or the arguments end. So an
argument that cannot be placed at all is complained about before the value that stands in front of
it.

A complaint about a name behind two dashes depends on the options that have been given before it,
so the scan keeps them.
-/

namespace ReadinessBench.Command

/-- Why the arguments lead to no run. -/
inductive Refusal where
  /-- Help is asked for, with all details or without. -/
  | help (detailed : Bool)
  | version
  | invalidValue (o : ValueOption) (value reason : String)
  | missingValue (o : ValueOption)
  /-- The argument has no meaning after these options. -/
  | unknownArgument (argument : String) (given : List CommandOption)
  | repeated (o : ValueOption)
  /-- A value for an option that takes none. It may come after options that describe a run. -/
  | unexpectedValue (value : String) (t : Toggle) (afterOptions : Bool)
  deriving DecidableEq, Repr

structure Scan where
  asked : Arguments := {}
  /-- The options read so far, each once, in the order in which they were read last. -/
  given : List CommandOption := []
  /-- The option read last, if its value has not been looked at yet, and the value if there is
  one. -/
  pending : Option (ValueOption × Option String) := none

namespace Scan

def has (s : Scan) (o : ValueOption) : Bool := s.given.contains (.valued o)

def read (asked : Arguments) (o : ValueOption) (value : String) : Except String Arguments :=
  let count := (readCount value).mapError CountError.message
  match o with
  | .engine => ((Mechanism.parse value).mapError BenchError.message).map fun m =>
      { asked with mechanism := m }
  | .engines => count.map fun n => { asked with engines := n }
  | .pairs => count.map fun n => { asked with pairs := n }
  | .messageSize => count.map fun n => { asked with messageSize := n }
  | .exclusive => (readFlag value).map fun b => { asked with exclusive := b }
  | .duration => count.map fun n => { asked with durationSecs := UInt64.ofNat n }

/-- Takes an option with its value. Giving an option twice is wrong whatever the values are. -/
def take (s : Scan) (o : ValueOption) (value : String) : Except Refusal Scan :=
  if s.has o then .error (.repeated o)
  else
    match read s.asked o value with
    | .ok asked => .ok { s with asked, given := s.given ++ [.valued o] }
    | .error reason => .error (.invalidValue o value reason)

def resolve (s : Scan) : Except Refusal Scan :=
  let done := { s with pending := none }
  match s.pending with
  | none => .ok done
  | some (o, none) => .error (.missingValue o)
  | some (o, some value) => done.take o value

/-- The options given when an unknown name comes. The option read last counts if it has a value,
good or bad; given twice it does not count at all. -/
def givenByNow (s : Scan) : List CommandOption :=
  match s.pending with
  | some (o, some _) =>
    if s.has o then s.given.erase (.valued o) else s.given ++ [.valued o]
  | _ => s.given

def toggle (s : Scan) (t : Toggle) (detailed : Bool) : Except Refusal Scan :=
  s.resolve.bind fun s =>
    match t with
    | .verbose => .ok { s with
        asked := { s.asked with verbosity := min 255 (s.asked.verbosity + 1) }
        given := s.given.erase (.plain t) ++ [.plain t] }
    | .help => .error (.help detailed)
    | .version => .error .version

/-- Takes letters behind a single dash, one after the other. -/
def letters (s : Scan) : List Char → Except Refusal Scan
  | [] => .ok s
  | c :: rest =>
    match Toggle.all.find? (·.letter = c) with
    | none => .error (.unknownArgument (String.ofList ['-', c]) [])
    | some t => (s.toggle t false).bind fun s => s.letters rest

/-- Takes a name behind two dashes, and the value behind its equals sign if there is one. -/
def name (s : Scan) (name : String) (value : Option String) : Except Refusal Scan :=
  match ValueOption.all.find? (·.long = name), Toggle.all.find? (·.long = name), value with
  | some o, _, some value => s.resolve.bind fun s => s.take o value
  | some o, _, none => s.resolve.map fun s => { s with pending := some (o, none) }
  | none, some t, some value => .error (.unexpectedValue value t (!s.given.isEmpty))
  | none, some t, none => s.toggle t true
  | none, none, _ => .error (.unknownArgument ("--" ++ name) s.givenByNow)

/-- Takes an argument that is no option: the value of the option before it, if that has none. -/
def plain (s : Scan) (argument : String) : Except Refusal Scan :=
  match s.pending with
  | some (o, none) => .ok { s with pending := some (o, some argument) }
  | _ => .error (.unknownArgument argument [])

def splitAtEquals (text : List Char) : String × Option String :=
  let name := text.takeWhile (· ≠ '=')
  match text.dropWhile (· ≠ '=') with
  | [] => (String.ofList name, none)
  | _ :: value => (String.ofList name, some (String.ofList value))

def argument (s : Scan) (a : String) : Except Refusal Scan :=
  match a.toList with
  | '-' :: '-' :: text =>
    let (name, value) := splitAtEquals text
    s.name name value
  | '-' :: c :: rest => s.letters (c :: rest)
  | _ => s.plain a

def finish (s : Scan) : Except Refusal Arguments := s.resolve.map Scan.asked

def arguments (s : Scan) : List String → Except Refusal Arguments
  | [] => s.finish
  | "--" :: [] => s.finish
  | "--" :: a :: _ => .error (.unknownArgument a [])
  | a :: rest => (s.argument a).bind fun s => s.arguments rest

end Scan

/-- What the arguments ask for, or why they lead to no run. -/
def parse (arguments : List String) : Except Refusal Arguments :=
  ({} : Scan).arguments arguments

end ReadinessBench.Command

import ReadinessBench.Command.Scan

/-!
# Help and complaints

The two help texts, and what is said about arguments that cannot be understood.
-/

namespace ReadinessBench.Command

def programName : String := "fdmonbench"

def versionText : String := programName ++ " 0.1.0\n"

def purpose : String := "Benchmarks file descriptor readiness monitoring mechanisms"

/-- How the program is called: with these options, or with any if there are none to show. -/
def usage (options : List String) : String :=
  " ".intercalate ("Usage:" :: programName :: if options.isEmpty then ["[OPTIONS]"] else options)

def runAlternatives : String :=
  "<" ++ "|".intercalate (CommandOption.ofRun.map CommandOption.shown) ++ ">"

/-- The options that are shown for one that takes no value: itself, and after options that describe
a run all of those as alternatives, of which it may be one. -/
def toggleUsage (t : Toggle) (afterOptions : Bool) : List String :=
  if !afterOptions then [t.shown]
  else if CommandOption.ofRun.contains (.plain t) then [runAlternatives]
  else [t.shown, runAlternatives]

def padRight (width : Nat) (text : String) : String :=
  text ++ String.ofList (List.replicate (width - text.length) ' ')

def mechanismLine (m : Mechanism) : String :=
  let exclusive := if m.supportsExclusive then ", supports --exclusive=1" else ""
  s!"  {padRight 10 m.name} (alias {m.byname}{exclusive})"

def engineLines : List String :=
  [ValueOption.engine.about ++ ".", "", "Available engines:"] ++ Mechanism.all.map mechanismLine

def engineHelp : String := "\n".intercalate engineLines

def ValueOption.entry (o : ValueOption) : String := "    " ++ o.shown

def Toggle.entry (t : Toggle) : String := s!"-{t.letter}, {t.shown}"

def Toggle.about (t : Toggle) (detailed : Bool) : String :=
  match t with
  | .verbose => "Log more detail to stderr. Repeat for even more"
  | .help =>
    if detailed then "Print help (see a summary with '-h')"
    else "Print help (see more with '--help')"
  | .version => "Print version"

/-- The value that is taken if none is given, as the help shows it. -/
def ValueOption.standardNote (o : ValueOption) : String := s!"[default: {o.standard}]"

/-- The options of the short help, one on each line, what they are for in a column of its own. -/
def shortEntries : List String :=
  let entries :=
    ValueOption.all.map (fun o => (o.entry, o.about ++ " " ++ o.standardNote)) ++
      Toggle.all.map (fun t => (t.entry, t.about false))
  let width := (entries.map (·.1.length)).foldl max 0
  entries.map fun (entry, about) => "  " ++ padRight width entry ++ "  " ++ about

/-- An option of the detailed help: a line for itself, then indented lines. -/
def detailedEntry (entry : String) (lines : List String) : String :=
  "\n".intercalate (("  " ++ entry) :: lines.map ("          " ++ ·))

def detailedEntries : List String :=
  ValueOption.all.map (fun o =>
      let about := match o with
        | .engine => engineLines
        | o => [o.about]
      detailedEntry o.entry (about ++ ["", o.standardNote])) ++
    Toggle.all.map fun t => detailedEntry t.entry [t.about true]

def helpText (detailed : Bool) : String :=
  let options :=
    if detailed then "\n\n".intercalate detailedEntries else "\n".intercalate shortEntries
  s!"{purpose}\n\n{usage []}\n\nOptions:\n{options}\n"

namespace Refusal

def message : Refusal → String
  | help detailed => helpText detailed
  | version => versionText
  | invalidValue o value reason => s!"error: invalid value '{value}' for '{o.shown}': {reason}"
  | missingValue o => s!"error: a value is required for '{o.shown}' but none was supplied"
  | unknownArgument a _ => s!"error: unexpected argument '{a}' found"
  | repeated o => s!"error: the argument '{o.shown}' cannot be used multiple times"
  | unexpectedValue value t _ =>
    s!"error: unexpected value '{value}' for '{t.shown}' found; no more were expected"

def isComplaint : Refusal → Bool
  | help _ | version => false
  | _ => true

def exitCode (r : Refusal) : Nat := if r.isComplaint then 2 else 0

/-- How the program should have been called, where a complaint says so. -/
def usage? : Refusal → Option String
  | unknownArgument _ given => some (usage (given.map CommandOption.shown))
  | unexpectedValue _ t afterOptions => some (usage (toggleUsage t afterOptions))
  | repeated _ => some (usage [])
  | help _ | version | invalidValue .. | missingValue _ => none

def text (r : Refusal) : String :=
  if r.isComplaint then
    let parts := r.message :: r.usage?.toList ++ ["For more information, try '--help'."]
    "\n\n".intercalate parts ++ "\n"
  else r.message

end Refusal

end ReadinessBench.Command

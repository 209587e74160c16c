import FontSubset.Files.Edit
import FontSubset.Process
import FontSubset.Shell.Grammar
import FontSubset.Shell.Numeral
import FontSubset.Text.Utf8
/-! The state of a running script. Words are bytes seen as characters. -/
namespace FontSubset.Shell

inductive Sink
  | stream (stream : Stream)
  | pipe
  | file (location : Files.Location)
  | nowhere
  deriving DecidableEq, Repr

structure Variable where
  name : String
  value? : Option String
  isExported : Bool
  isFixed : Bool
  deriving Repr

structure Job where
  process : Nat
  status : Nat
  ending : Nat
  notice : String

def switchNames : List (Char × String) :=
  [('e', "errexit"), ('f', "noglob"), ('I', "ignoreeof"), ('i', "interactive"), ('m', "monitor"),
    ('n', "noexec"), ('s', "stdin"), ('x', "xtrace"), ('v', "verbose"), ('V', "vi"), ('E', "emacs"),
    ('C', "noclobber"), ('a', "allexport"), ('b', "notify"), ('u', "nounset")]

structure State where
  files : Files
  bindings : List Variable
  -- What the function at work has hidden, if one is.
  locals : Option (List (String × Option Variable))
  functions : List (String × Command)
  -- Scripts by signal. That of 0 runs at the end.
  traps : List (Nat × String)
  name : String
  -- The command of the shell that runs the script, if one does; complaints name it.
  context : Option String
  arguments : List String
  status : Nat
  -- The status of the last script among the words at hand.
  substituted : Nat
  switches : List Char
  loops : Nat
  descriptors : List (Nat × Sink)
  input : Bytes
  sources : List (Nat × Bytes)
  -- The further descriptor that the input is shared with.
  sharedSource : Option Nat
  -- How many arguments, and characters of the next one, were looked at for options.
  optionPlace : Nat × Nat
  -- Both with the last first.
  output : List (Stream × Bytes)
  piped : List Bytes
  -- Something was written to the output after that was closed.
  isLost : Bool
  jobs : List Job
  elapsed : Nat
  limit : Option Nat

inductive Stop
  | exit (code : Nat)
  | back (code : Nat)
  | killed (signal : Nat)
  | overtime
  | leave (more : Nat)
  | again (more : Nat)
  deriving DecidableEq, Repr

abbrev Progress := Option Stop × State

abbrev Starter := Path → Task → Except Files.Fault Performance

structure Surroundings where
  start : Starter
  run : Bool → Command → State → Progress
  isTested : Bool

namespace State

def processNumber : Nat := 4242

def defaultSearchPath : String := "/usr/local/sbin:/usr/local/bin:/usr/sbin:/usr/bin:/sbin:/bin"

def directoryName (files : Files) : String :=
  "/" ++ "/".intercalate (files.here.map Text.octets)

def initialBindings (task : Task) : List Variable :=
  let given := task.environment.map fun (name, value) =>
    Variable.mk (Text.octets name) (some (Text.octets value)) true false
  let hasPath := given.any (·.name == "PATH")
  (given.filter fun v => v.name != "IFS" && v.name != "PWD") ++
    [⟨"IFS", some " \t\n", false, false⟩, ⟨"OPTIND", some "1", false, false⟩, ⟨"PS4", some "+ ", false, false⟩,
      ⟨"PWD", some (directoryName task.files), true, false⟩] ++
    (if hasPath then [] else [⟨"PATH", some defaultSearchPath, false, false⟩])

def ofTask (task : Task) (name : String) (arguments : List String) : State where
  files := task.files
  bindings := initialBindings task
  locals := none
  functions := []
  traps := []
  name := name
  context := none
  arguments := arguments
  status := 0
  substituted := 0
  switches := []
  loops := 0
  descriptors := [(1, .stream .stdout), (2, .stream .stderr)]
  input := task.input
  sources := []
  sharedSource := none
  optionPlace := (1, 0)
  output := []
  piped := []
  isLost := false
  jobs := []
  elapsed := 0
  limit := task.limit

/-! ## Variables and switches -/

/-- Whether a switch is on: `e` ends a script at a failing command, `u` at an unset parameter,
`x` shows commands before they are run, `f` leaves patterns alone, `n` runs nothing, `C` keeps
files from being overwritten, and `a` exports whatever is assigned. -/
def has (state : State) (letter : Char) : Bool := state.switches.contains letter

def turn (state : State) (on : Bool) (letter : Char) : State :=
  let others := state.switches.filter (· != letter)
  { state with switches := if on then letter :: others else others }

def binding? (state : State) (name : String) : Option Variable :=
  state.bindings.reverse.find? (·.name == name)

def lookup (state : State) (name : String) : Option String :=
  (state.binding? name).bind (·.value?)

def isFixed (state : State) (name : String) : Bool := (state.binding? name).any (·.isFixed)

def assign (state : State) (name value : String) : State :=
  let exported := state.has 'a' || (state.binding? name).any (·.isExported)
  { state with
    bindings := state.bindings.filter (·.name != name) ++ [⟨name, some value, exported, false⟩] }

def unset (state : State) (name : String) : State :=
  { state with bindings := state.bindings.filter (·.name != name) }

def putBack (state : State) (name : String) (old : Option Variable) : State :=
  { state with bindings := state.bindings.filter (·.name != name) ++ old.toList }

def mark (change : Variable → Variable) (state : State) (name : String) : State :=
  if (state.binding? name).isNone then
    { state with bindings := state.bindings ++ [change ⟨name, none, false, false⟩] }
  else { state with bindings := state.bindings.map fun v => if v.name == name then change v else v }

def markExported : State → String → State := mark fun v => { v with isExported := true }

def markFixed : State → String → State := mark fun v => { v with isFixed := true }

def environment (state : State) : Environment :=
  (state.bindings.filter (·.isExported)).filterMap fun v =>
    v.value?.map fun value => (Text.ofOctets v.name, Text.ofOctets value)

def separators (state : State) : List Char := ((state.lookup "IFS").getD " \t\n").toList

def joinedArguments (state : State) : String :=
  let separator := match state.separators with
    | [] => ""
    | c :: _ => String.singleton c
  separator.intercalate state.arguments

def parameter? (state : State) (name : String) : Option String :=
  if name = "0" then some state.name
  else if name = "#" then some (toString state.arguments.length)
  else if name = "?" then some (toString state.status)
  else if name = "$" then some (toString processNumber)
  else if name = "!" then state.jobs.head?.map fun job => toString job.process
  else if name = "-" then some (String.ofList ((switchNames.map (·.1)).filter state.has))
  else if name = "@" then some (" ".intercalate state.arguments)
  else if name = "*" then some state.joinedArguments
  else match Numeral.natural? name with
    | some n => state.arguments[n - 1]?
    | none => state.lookup name

/-! ## Output -/

def sink? (state : State) (descriptor : Nat) : Option Sink :=
  (state.descriptors.find? (·.1 == descriptor)).map (·.2)

def redirect (state : State) (descriptor : Nat) (sink : Sink) : State :=
  { state with descriptors :=
      (descriptor, sink) :: state.descriptors.filter (·.1 != descriptor) }

def extended (bytes : Bytes) : Option Files.Node → Option Files.Node
  | some (.file old executable) => some (.file (old ++ bytes) executable)
  | node? => node?

def writeTo (state : State) (sink? : Option Sink) (bytes : Bytes) : State :=
  match sink? with
  | some (.stream stream) => { state with output := (stream, bytes) :: state.output }
  | some .pipe => { state with piped := bytes :: state.piped }
  | some .nowhere | none => state
  | some (.file location) =>
    let top := state.files.top.alter (extended bytes) location
    { state with files := { state.files with top } }

def writeBytes (state : State) (descriptor : Nat) (bytes : Bytes) : State :=
  state.writeTo (state.sink? descriptor) bytes

def write (state : State) (descriptor : Nat) (text : String) : State :=
  let isLost := descriptor = 1 && (state.sink? 1).isNone && !text.isEmpty
  { state.writeBytes descriptor (Text.ofOctets text) with isLost := state.isLost || isLost }

def source? (state : State) (descriptor : Nat) : Option Bytes :=
  if descriptor = 0 then some state.input else state.sources.lookup descriptor

def feed (state : State) (descriptor : Nat) (bytes : Bytes) (shared : Option Nat) : State :=
  if descriptor = 0 then { state with input := bytes, sharedSource := shared }
  else { state with
    sources := (descriptor, bytes) :: state.sources.filter (·.1 != descriptor) }

def close (state : State) (descriptor : Nat) : State :=
  { state with
    descriptors := state.descriptors.filter (·.1 != descriptor)
    sources := state.sources.filter (·.1 != descriptor) }

def complain (state : State) (line : Nat) (text : String) : State :=
  state.write 2 (state.name ++ ": " ++ toString line ++ ": " ++ text ++ "\n")

def complainWithin (state : State) (line : Nat) (text : String) : State :=
  match state.context with
  | some name => state.complain line (name ++ ": " ++ text)
  | none => state.complain line text

/-- The state of a shell after a copy of it has come to `after`: files, output and time
are common to both, all else is as it was. -/
def rejoin (state after : State) (status : Nat) : State :=
  { state with
    files := { after.files with here := state.files.here }
    input := after.input
    output := after.output
    piped := after.piped
    elapsed := after.elapsed
    status }

def lastEnding (state : State) : Nat :=
  (state.jobs.map (·.ending)).foldr max state.elapsed

end State

def proceed (status : Nat) (state : State) : Progress := (none, { state with status })

end FontSubset.Shell

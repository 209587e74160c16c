import FontSubset.Shell.Expand
import FontSubset.Shell.Format
import FontSubset.Shell.Meaning
/-! The commands of the shell itself. -/
namespace FontSubset.Shell

/-- What a command of the shell does, given the line it stands in and its arguments. -/
abbrev Builtin := Surroundings → Nat → List String → State → Progress

def failWith (line : Nat) (status : Nat) (text : String) (state : State) : Progress :=
  proceed status (state.complain line text)

def abort (line : Nat) (text : String) (state : State) : Progress :=
  (some (.exit 2), state.complain line text)

def singleQuoted (text : String) : String :=
  "'" ++ String.join (text.toList.map fun c => if c = '\'' then "'\"'\"'" else String.singleton c) ++ "'"

/-! ## Options -/

structure Parting where
  letters : List Char
  values : List (Char × String)
  operands : List String

/-- Reads options in front of other arguments. Letters in `valued` take a value. -/
def partOptions (letters valued : List Char) : List String → Except String Parting
  | [] => .ok ⟨[], [], []⟩
  | word :: rest =>
    match word.toList with
    | ['-', '-'] => .ok ⟨[], [], rest⟩
    | '-' :: c :: more =>
      if valued.contains c then
        match more, rest with
        | [], [] => .error ("No arg for -" ++ String.singleton c ++ " option")
        | [], value :: rest =>
          (partOptions letters valued rest).map fun parting =>
            { parting with values := (c, value) :: parting.values }
        | more, rest =>
          (partOptions letters valued rest).map fun parting =>
            { parting with values := (c, String.ofList more) :: parting.values }
      else
        match (c :: more).find? fun c => !letters.contains c with
        | some c => .error ("Illegal option -" ++ String.singleton c)
        | none => (partOptions letters valued rest).map fun parting =>
          { parting with letters := c :: more ++ parting.letters }
    | _ => .ok ⟨[], [], word :: rest⟩

def withLetters (name letters valued : String)
    (body : Surroundings → Nat → Parting → State → Progress) : Builtin :=
  fun shell line arguments state =>
    match partOptions letters.toList valued.toList arguments with
    | .ok parting => body shell line parting state
    | .error text =>
      let text := name ++ ": " ++ text
      if specialNames.contains name then abort line text state else failWith line 2 text state

/-! ## Signals -/

def signalNames : List (String × Nat) :=
  [("HUP", 1), ("INT", 2), ("QUIT", 3), ("ILL", 4), ("TRAP", 5), ("ABRT", 6), ("BUS", 7),
    ("FPE", 8), ("KILL", 9), ("USR1", 10), ("SEGV", 11), ("USR2", 12), ("PIPE", 13), ("ALRM", 14),
    ("TERM", 15), ("STKFLT", 16), ("CHLD", 17), ("CONT", 18), ("STOP", 19), ("TSTP", 20),
    ("TTIN", 21), ("TTOU", 22), ("URG", 23), ("XCPU", 24), ("XFSZ", 25), ("VTALRM", 26),
    ("PROF", 27), ("WINCH", 28), ("IO", 29), ("PWR", 30), ("SYS", 31)]

/-- Signals that a process does not notice unless it asks to. -/
def ignoredSignals : List Nat := [0, 17, 18, 23, 28]

def stoppingSignals : List Nat := [19, 20, 21, 22]

def finalSignals : List Nat := [9, 19]

def signalLimit : Nat := 64

def signalOf? (text : String) : Option Nat :=
  match Numeral.natural? text with
  | some n => if n ≤ signalLimit then some n else none
  | none => (signalNames.find? fun (name, _) => name == text.toUpper).map (·.2)

def signalName (signal : Nat) : String :=
  match signalNames.find? (·.2 == signal) with
  | some (name, _) => name
  | none => if signal = 0 then "EXIT" else toString signal

def deathNotice (signal : Nat) : String :=
  match signal with
  | 1 => "Hangup\n"
  | 2 | 13 => ""
  | 3 => "Quit\n"
  | 4 => "Illegal instruction\n"
  | 5 => "Trace/breakpoint trap\n"
  | 6 => "Aborted\n"
  | 7 => "Bus error\n"
  | 8 => "Floating point exception\n"
  | 9 => "Killed\n"
  | 10 => "User defined signal 1\n"
  | 11 => "Segmentation fault\n"
  | 12 => "User defined signal 2\n"
  | 14 => "Alarm clock\n"
  | 15 => "Terminated\n"
  | _ => ""

def trapFor? (signal : Nat) (state : State) : Option String :=
  if finalSignals.contains signal then none
  else (state.traps.find? (·.1 == signal)).map (·.2)

def runTrap (shell : Surroundings) (script : String) (state : State) : Progress :=
  match runText (shell.run false) script state with
  | (none, after) => (none, { after with status := state.status })
  | stopped => stopped

def signalSelf (shell : Surroundings) (signal : Nat) (state : State) : Progress :=
  match trapFor? signal state with
  | some script =>
    if signal = 0 then proceed 0 state else runTrap shell script { state with status := 0 }
  | none =>
    if ignoredSignals.contains signal then proceed 0 state
    else if stoppingSignals.contains signal then
      if state.limit.isSome then (some .overtime, state) else proceed 0 state
    else (some (.killed signal), state)

/-- Sends a signal to a job. One that is still at work ends with it. -/
def signalJob (signal : Nat) (process : Nat) (state : State) : State :=
  let struck (job : Job) : Job :=
    if job.process ≠ process || job.ending ≤ state.elapsed || ignoredSignals.contains signal then job
    else { job with status := 128 + signal, ending := state.elapsed, notice := deathNotice signal }
  { state with jobs := state.jobs.map struck }

def signalAll (shell : Surroundings) (line : Nat) (signal : Nat) (status : Nat) :
    List String → State → Progress
  | [], state => proceed status state
  | target :: rest, state =>
    match Numeral.count? target with
    | none => failWith line 2 ("kill: Illegal number: " ++ target) state
    | some process =>
      if process = State.processNumber then
        match signalSelf shell signal state with
        | (none, state) => signalAll shell line signal status rest state
        | stopped => stopped
      else if state.jobs.any (·.process == process) then
        signalAll shell line signal status rest (signalJob signal process state)
      else signalAll shell line signal 1 rest (state.complain line "kill: No such process\n")

def killUsage : String :=
  "kill: Usage: kill [-s sigspec | -signum | -sigspec] [pid | job]... or\nkill -l [exitstatus]"

def listSignals (line : Nat) (operands : List String) (state : State) : Progress :=
  match operands with
  | [] =>
    let names := "0" :: ((List.range signalLimit).map fun n => signalName (n + 1))
    proceed 0 (state.write 1 (String.join (names.map (· ++ "\n"))))
  | text :: _ =>
    match Numeral.count? text with
    | none => failWith line 2 ("kill: Illegal number: " ++ text) state
    | some n =>
      let signal := if 128 < n then n - 128 else n
      if 0 < signal && signal ≤ signalLimit then proceed 0 (state.write 1 (signalName signal ++ "\n"))
      else failWith line 2 ("kill: invalid signal number or exit status: " ++ text) state

def kill : Builtin := fun shell line arguments state =>
  let send (signal : Nat) (targets : List String) : Progress :=
    if targets.isEmpty then failWith line 2 killUsage state
    else signalAll shell line signal 0 targets state
  let byName := arguments.head?.bind fun word =>
    match word.toList with
    | '-' :: name => signalOf? (String.ofList name)
    | _ => none
  match byName, partOptions ['l'] ['s'] arguments with
  | some signal, _ => send signal arguments.tail
  | none, .error text => failWith line 2 ("kill: " ++ text) state
  | none, .ok parting =>
    if parting.letters.contains 'l' then listSignals line parting.operands state
    else
      match parting.values.getLast? with
      | none => send 15 parting.operands
      | some (_, name) =>
        match signalOf? name with
        | some signal => send signal parting.operands
        | none => failWith line 2 ("kill: invalid signal number or name: " ++ name) state

def trapLine (state : State) (signal : Nat) : Option String :=
  (state.traps.lookup signal).map fun script =>
    "trap -- " ++ singleQuoted script ++ " " ++ signalName signal ++ "\n"

def trap : Builtin := withLetters "trap" "" "" fun _ _ parting state =>
  let setTraps (script : Option String) (names : List String) : Progress :=
    let setOne (state : State) (signal : Nat) : State :=
      let others := state.traps.filter (·.1 != signal)
      { state with traps := (script.map fun script => (signal, script)).toList ++ others }
    let signalNamed? (name : String) : Option Nat :=
      if name.toUpper = "EXIT" then some 0 else signalOf? name
    match names.find? fun name => (signalNamed? name).isNone with
    | some name => proceed 1 (state.write 2 ("trap: " ++ name ++ ": bad trap\n"))
    | none => proceed 0 ((names.filterMap signalNamed?).foldl setOne state)
  match parting.operands with
  | [] =>
    let lines := (List.range (signalLimit + 1)).filterMap (trapLine state)
    proceed 0 (state.write 1 (String.join lines))
  | [name] => setTraps none [name]
  | script :: names => setTraps (if script = "-" then none else some script) names

/-! ## Jobs -/

def waitUntil (moment status : Nat) (state : State) : Progress :=
  let elapsed := max state.elapsed moment
  if Task.isOver state.limit elapsed then (some .overtime, { state with elapsed })
  else proceed status { state with elapsed }

def waitFor : List String → State → Progress
  | [], state => (none, state)
  | name :: rest, state =>
    match state.jobs.find? fun job => toString job.process == name with
    | none => waitFor rest { state with status := 127 }
    | some job =>
      match waitUntil job.ending job.status (state.write 2 job.notice) with
      | (none, state) => waitFor rest state
      | stopped => stopped

def wait : Builtin := fun _ _ arguments state =>
  if arguments.isEmpty then waitUntil state.lastEnding 0 state else waitFor arguments state

/-! ## Ends -/

def statusOf (name : String) (stop : Nat → Stop) : Builtin := fun _ line arguments state =>
  match arguments with
  | [] => (some (stop state.status), state)
  | text :: _ =>
    match Numeral.count? text with
    | some n => (some (stop n), { state with status := n })
    | none => abort line (name ++ ": Illegal number: " ++ text) state

def exitCode : Builtin := statusOf "exit" fun n => .exit (n % 256)

def returnCode : Builtin := statusOf "return" .back

def withCount (name : String) (body : Nat → State → Progress) : Builtin :=
  fun _ line arguments state =>
    match arguments with
    | [] => body 1 state
    | text :: _ =>
      match Numeral.count? text with
      | some n => body n state
      | none => abort line (name ++ ": Illegal number: " ++ text) state

def leaveLoops (name : String) (stop : Nat → Stop) : Builtin := withCount name fun count state =>
  if state.loops = 0 ∨ count = 0 then proceed 0 state
  else (some (stop (min count state.loops - 1)), { state with status := 0 })

def shift : Builtin := fun shell line arguments state =>
  withCount "shift" (fun count state =>
    if state.arguments.length < count then abort line "shift: can't shift that many" state
    else proceed 0 { state with arguments := state.arguments.drop count }) shell line arguments state

/-! ## Output and conditions -/

def printf : Builtin := withLetters "printf" "" "" fun _ line parting state =>
  match parting.operands with
  | [] => failWith line 2 "printf: usage: printf format [arg ...]" state
  | format :: arguments =>
    let done := formatted format arguments
    let state := done.faults.foldl (fun state fault =>
      state.complain line ("printf: " ++ fault.text)) state
    let state := state.write 1 (String.ofList done.text)
    proceed (if done.isRefused then 2 else if done.faults.isEmpty then 0 else 1) state

def test (name : String) : Builtin := fun _ line arguments state =>
  match Condition.check state.files arguments with
  | .ok answer => proceed (if answer then 0 else 1) state
  | .error text => failWith line 2 (name ++ ": " ++ text) state

def bracketTest : Builtin := fun shell line arguments state =>
  if arguments.getLast? = some "]" then test "[" shell line arguments.dropLast state
  else failWith line 2 "[: missing ]" state

/-! ## Directories -/

def changeDirectory : Builtin := withLetters "cd" "LP" "" fun _ line parting state =>
  let back := parting.operands.head? = some "-"
  let target := if back then (state.lookup "OLDPWD").getD ""
    else parting.operands.head?.getD ((state.lookup "HOME").getD "")
  if target.isEmpty then proceed 0 state
  else
    match state.files.place true (pathOf target) with
    | .ok ⟨location, some (.directory _)⟩ =>
      let old := State.directoryName state.files
      let files := { state.files with here := location }
      let state := { state with files }
      let state := (state.assign "OLDPWD" old).assign "PWD" (State.directoryName files)
      let state := (state.markExported "OLDPWD").markExported "PWD"
      proceed 0 (if back then state.write 1 (State.directoryName files ++ "\n") else state)
    | _ => failWith line 2 ("cd: can't cd to " ++ parting.operands.head?.getD target) state

/-! ## Variables -/

def assignmentIn (argument : String) : String × Option String :=
  let chars := argument.toList
  (String.ofList (chars.takeWhile (· ≠ '=')),
    (chars.dropWhile (· ≠ '=')).head?.map fun _ =>
      String.ofList ((chars.dropWhile (· ≠ '=')).drop 1))

def misnamed? (state : State) (names : List String) : Option String :=
  names.findSome? fun name =>
    if !Token.isName name then some (name ++ ": bad variable name")
    else if state.isFixed name then some (name ++ ": is read only")
    else none

/-- Assigns what is to be assigned, and then marks the variable. -/
def assignMarked (mark : State → String → State) (state : State) (argument : String) : State :=
  match assignmentIn argument with
  | (name, some value) => mark (state.assign name value) name
  | (name, none) => mark state name

def listVariables (name : String) (isListed : Variable → Bool) (state : State) : State :=
  let listed := (state.bindings.filter isListed).mergeSort fun a b => (compare a.name b.name).isLE
  state.write 1 (String.join (listed.map fun v =>
    name ++ " " ++ v.name ++ ((v.value?.map fun value => "=" ++ singleQuoted value).getD "") ++ "\n"))

def marking (name : String) (mark : State → String → State) (isMarked : Variable → Bool) : Builtin :=
  withLetters name "p" "" fun _ line parting state =>
    if parting.operands.isEmpty then proceed 0 (listVariables name isMarked state)
    else
      let assigned := parting.operands.filter fun word => (assignmentIn word).2.isSome
      match misnamed? state (assigned.map fun word => (assignmentIn word).1) with
      | some text => abort line (name ++ ": " ++ text) state
      | none => proceed 0 (parting.operands.foldl (assignMarked mark) state)

def makeLocal : Builtin := fun _ line arguments state =>
  match state.locals with
  | none => abort line "local: not in a function" state
  | some locals =>
    let names := arguments.map fun word => (assignmentIn word).1
    match misnamed? state names with
    | some text => abort line ("local: " ++ text) state
    | none =>
      let saved := names.map fun name => (name, state.binding? name)
      proceed 0 (arguments.foldl (assignMarked fun state _ => state)
        { state with locals := some (saved ++ locals) })

def unset : Builtin := withLetters "unset" "fv" "" fun _ line parting state =>
  if parting.letters.getLast? = some 'f' then
    proceed 0 { state with
      functions := state.functions.filter fun (name, _) => !parting.operands.contains name }
  else
    match misnamed? state parting.operands with
    | some text => abort line ("unset: " ++ text) state
    | none => proceed 0 (parting.operands.foldl State.unset state)

/-- A line of input without its end, what follows, and whether it had an end. A backslash takes
the meaning from a character, and with a line end disappears. -/
def inputLine (raw : Bool) : Bytes → List Pattern.Mark × Bytes × Bool
  | [] => ([], [], false)
  | b :: rest =>
    let keep (b : UInt8) (literal : Bool) (more : List Pattern.Mark × Bytes × Bool) :=
      ((Char.ofNat b.toNat, literal) :: more.1, more.2)
    if b = 0x0A then ([], rest, true)
    else if b = 0x5C && !raw then
      match rest with
      | [] => ([], [], false)
      | c :: rest => if c = 0x0A then inputLine raw rest else keep c true (inputLine raw rest)
    else keep b false (inputLine raw rest)

namespace InputFields

def isSeparator (separators : List Char) (mark : Pattern.Mark) : Bool :=
  !mark.2 && separators.contains mark.1

def isBlank (separators : List Char) (mark : Pattern.Mark) : Bool :=
  isSeparator separators mark && mark.1 ∈ [' ', '\t', '\n']

def trimEnd (separators : List Char) (marks : List Pattern.Mark) : List Pattern.Mark :=
  (marks.reverse.dropWhile (isBlank separators)).reverse

/-- What follows the end of a field: blanks, and one other separator among them. -/
def afterField (separators : List Char) (marks : List Pattern.Mark) : List Pattern.Mark :=
  match marks.dropWhile (isBlank separators) with
  | mark :: rest =>
    if isSeparator separators mark then rest.dropWhile (isBlank separators) else mark :: rest
  | [] => []

def last (separators : List Char) (marks : List Pattern.Mark) : List Pattern.Mark :=
  let trimmed := trimEnd separators marks
  let field := trimEnd separators trimmed.dropLast
  if trimmed.getLast?.any (isSeparator separators) && !field.any (isSeparator separators) then field
  else trimmed

end InputFields

def textOf (marks : List Pattern.Mark) : String := String.ofList (marks.map (·.1))

def assignFields (separators : List Char) (state : State) :
    List String → List Pattern.Mark → State
  | [], _ => state
  | [name], marks => state.assign name (textOf (InputFields.last separators marks))
  | name :: names, marks =>
    let isEnd := InputFields.isSeparator separators
    assignFields separators (state.assign name (textOf (marks.takeWhile (!isEnd ·)))) names
      (InputFields.afterField separators (marks.dropWhile (!isEnd ·)))

def read : Builtin := withLetters "read" "r" "p" fun _ line parting state =>
  match parting.operands, misnamed? state parting.operands with
  | [], _ => failWith line 2 "read: arg count" state
  | _, some text => failWith line 2 ("read: " ++ text) state
  | names, none =>
    let (marks, input, isEnded) := inputLine (parting.letters.contains 'r') state.input
    let separators := state.separators
    let marks := marks.dropWhile (InputFields.isBlank separators)
    proceed (if isEnded then 0 else 1) { assignFields separators state names marks with input }

/-! ## Switches and options -/

def switchNamed? (name : String) : Option Char :=
  (switchNames.find? (·.2 == name)).map (·.1)

def turnLetters (on : Bool) (state : State) (rest : List String) :
    List Char → Except String (State × List String)
  | [] => .ok (state, rest)
  | 'o' :: letters =>
    match rest with
    | [] => turnLetters on state [] letters
    | name :: rest =>
      match switchNamed? name with
      | some letter => turnLetters on (state.turn on letter) rest letters
      | none => .error ("Illegal option -o " ++ name)
  | letter :: letters =>
    if switchNames.any (·.1 == letter) then turnLetters on (state.turn on letter) rest letters
    else .error ("Illegal option -" ++ String.singleton letter)

def setAll : Nat → List String → State → Except String State
  | 0, _, state => .ok state
  | _, [], state => .ok state
  | steps + 1, word :: rest, state =>
    match word.toList with
    | ['-'] =>
      let state := (state.turn false 'x').turn false 'v'
      .ok (if rest.isEmpty then state else { state with arguments := rest })
    | ['-', '-'] => .ok { state with arguments := rest }
    | '-' :: letters => do
      let (state, rest) ← turnLetters true state rest letters
      setAll steps rest state
    | '+' :: letters => do
      let (state, rest) ← turnLetters false state rest letters
      setAll steps rest state
    | _ => .ok { state with arguments := word :: rest }

def set : Builtin := fun _ line arguments state =>
  match setAll (arguments.length + 1) arguments state with
  | .ok state => proceed 0 state
  | .error text => abort line ("set: " ++ text) state

/-- The next option in some words: its letter, the letters left in its word and the words behind
that. -/
def nextOption? (words : List String) (place : Nat × Nat) :
    Option (Char × List Char × Nat) :=
  let (index, offset) := place
  match (if index ≤ 1 || offset = 0 then [] else ((words[index - 2]?).getD "").toList.drop offset) with
  | c :: rest => some (c, rest, index)
  | [] =>
    match ((words[index - 1]?).getD "").toList with
    | '-' :: c :: rest => if c = '-' && rest.isEmpty then none else some (c, rest, index + 1)
    | _ => none

def getOptions : Builtin := fun _ line arguments state =>
  match arguments with
  | options :: name :: given =>
    let words := if given.isEmpty then state.arguments else given
    let index := max 1 (((state.lookup "OPTIND").bind Numeral.natural?).getD 1)
    let place := if state.optionPlace.1 = index then state.optionPlace else (index, 0)
    let quiet := options.toList.head? = some ':'
    let finish (letter : String) (value? : Option String) (place : Nat × Nat) (state : State) : State :=
      let state := match value? with
        | some value => state.assign "OPTARG" value
        | none => state.unset "OPTARG"
      { (state.assign "OPTIND" (toString place.1)).assign name letter with optionPlace := place }
    let complain (text : String) (letter : Char) (place : Nat × Nat) (instead : String) : State :=
      if quiet then finish instead (some (String.singleton letter)) place state
      else finish "?" none place (state.write 2 (text ++ "\n"))
    match nextOption? words place with
    | none =>
      let isEnd := words[index - 1]? = some "--"
      let after := if isEnd then index + 1 else index
      proceed 1 { (state.assign "OPTIND" (toString after)).assign name "?" with
        optionPlace := (after, 0) }
    | some (letter, rest, index) =>
      let offset := if rest.isEmpty then 0
        else ((words[index - 2]?).getD "").length - rest.length
      let place := (index, offset)
      match (options.toList.dropWhile (· ≠ letter)) with
      | _ :: ':' :: _ =>
        if letter = ':' then
          proceed 0 (complain "Illegal option -:" letter place "?")
        else if !rest.isEmpty then
          proceed 0 (finish (String.singleton letter) (some (String.ofList rest)) (index, 0) state)
        else
          match words[index - 1]? with
          | some value =>
            proceed 0 (finish (String.singleton letter) (some value) (index + 1, 0) state)
          | none =>
            proceed 0 (complain ("No arg for -" ++ String.singleton letter ++ " option") letter place ":")
      | _ :: _ => proceed 0 (finish (String.singleton letter) (some "") place state)
      | [] => proceed 0 (complain ("Illegal option -" ++ String.singleton letter) letter place "?")
  | _ => failWith line 2 "getopts: Usage: getopts optstring var [arg...]" state

/-! ## Scripts and names -/

def runWithin (shell : Surroundings) (tested : Bool) (name text : String) (state : State) :
    Progress :=
  let (stop, after) := runText (shell.run tested) text { state with context := some name }
  (stop, { after with context := state.context })

def evaluate : Builtin := fun shell _ arguments state =>
  runWithin shell shell.isTested "eval" (" ".intercalate arguments) { state with status := 0 }

def source : Builtin := fun shell line arguments state =>
  match arguments with
  | [] => proceed 0 state
  | path :: _ =>
    let isPath := path.toList.contains '/'
    match state.files.read (if isPath then pathOf path else ⟨[]⟩) with
    | .error _ =>
      abort line (if isPath then ".: cannot open " ++ path ++ ": No such file"
        else ".: " ++ path ++ ": not found") state
    | .ok bytes =>
      match runWithin shell false path (Text.octets bytes) state with
      | (some (.back code), state) => proceed code state
      | progress => progress

def describeNames (status : Nat) : List String → State → Progress
  | [], state => proceed status state
  | name :: rest, state =>
    match state.meaning? name with
    | some meaning =>
      describeNames status rest (state.write 1 (meaning.description name ++ "\n"))
    | none => describeNames 127 rest (state.write 1 (name ++ ": not found\n"))

def describe : Builtin := fun _ _ arguments state => describeNames 0 arguments state

def locate (name : String) (state : State) : Progress :=
  match state.meaning? name with
  | some meaning => proceed 0 (state.write 1 (meaning.call name ++ "\n"))
  | none => proceed 127 state

def succeed : Builtin := fun _ _ _ state => proceed 0 state

def changing (change : List String → State → State) : Builtin := fun _ _ arguments state =>
  proceed 0 (change arguments state)

def noJob (name : String) : Builtin := fun _ line _ state =>
  failWith line 2 (name ++ ": No current job") state

def builtins : List (String × Builtin) :=
  [(":", succeed), ("true", succeed), ("ulimit", succeed), ("times", succeed), ("hash", succeed),
    ("alias", succeed), ("unalias", succeed), ("jobs", succeed), ("fg", noJob "fg"),
    ("bg", noJob "bg"), ("false", fun _ _ _ state => proceed 1 state),
    ("echo", changing fun arguments state => state.write 1 (echoText arguments)),
    ("printf", printf), ("exit", exitCode), ("return", returnCode), ("kill", kill), ("trap", trap),
    ("test", test "test"), ("[", bracketTest), ("shift", shift), ("cd", changeDirectory),
    ("pwd", changing fun _ state => state.write 1 (State.directoryName state.files ++ "\n")),
    ("export", marking "export" State.markExported (·.isExported)),
    ("readonly", marking "readonly" State.markFixed (·.isFixed)),
    ("local", makeLocal), ("set", set), ("unset", unset),
    ("umask", changing fun arguments state =>
      if arguments.isEmpty then state.write 1 "0022\n" else state),
    ("read", read), ("break", leaveLoops "break" .leave), ("continue", leaveLoops "continue" .again),
    ("eval", evaluate), (".", source), ("wait", wait), ("getopts", getOptions), ("type", describe)]

def builtin? (name : String) : Option Builtin := (builtins.find? (·.1 == name)).map (·.2)

end FontSubset.Shell

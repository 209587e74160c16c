import FontSubset.Shell.Builtin
/-! Scripts run. Commands of the shell itself are done here; all others are started by
whoever runs the shell. -/
namespace FontSubset.Shell
open Files (Fault)

/-! ## Programs -/

def perform (start : Starter) (path : String) (words : List String) (state : State) :
    Except Fault (Ending × State) := do
  let task : Task := ⟨state.files, state.environment, words.map Text.ofOctets,
    state.limit.map (· - state.elapsed), state.input⟩
  let performance ← start (pathOf path) task
  let state := { state with
    files := { performance.files with here := state.files.here }
    elapsed := state.elapsed + performance.elapsed }
  let descriptor : Stream → Nat
    | .stdout => 1
    | .stderr => 2
  return (performance.ending,
    performance.output.foldl (fun state (stream, bytes) => state.writeBytes (descriptor stream) bytes)
      state)

def startText (name : String) : Fault → String
  | .notFound | .notADirectory => name ++ ": not found"
  | fault => name ++ ": " ++ fault.text

def startStatus : Fault → Nat
  | .notFound | .notADirectory => 127
  | _ => 126

def external (start : Starter) (line : Nat) (words : List String) (state : State) : Progress :=
  let name := words.headD ""
  let fail (status : Nat) (fault : Fault) : Progress :=
    proceed status (state.complainWithin line (startText name fault))
  match state.pathOf name with
  | .error fault => fail 127 fault
  | .ok path =>
    match perform start path words state with
    | .error fault => fail (startStatus fault) fault
    | .ok (.exited code, state) => proceed code state
    | .ok (.killed signal, state) => proceed (128 + signal) (state.write 2 (deathNotice signal))
    | .ok (.overtime, state) => (some .overtime, state)

def replace (start : Starter) (line : Nat) (words : List String) (state : State) : Progress :=
  let name := words.headD ""
  match (state.pathOf name).bind fun path => perform start path words state with
  | .error fault =>
    (some (.exit (startStatus fault)), state.complain line ("exec: " ++ startText name fault))
  | .ok (.exited code, state) => (some (.exit code), { state with traps := [] })
  | .ok (.killed signal, state) => (some (.killed signal), state)
  | .ok (.overtime, state) => (some .overtime, state)

/-! ## Redirections -/

def cannotCreate (path : String) : Fault → String
  | .notFound | .notADirectory => "cannot create " ++ path ++ ": Directory nonexistent"
  | fault => "cannot create " ++ path ++ ": " ++ fault.text

def cannotOpen (path : String) : Fault → String
  | .notFound | .notADirectory => "cannot open " ++ path ++ ": No such file"
  | fault => "cannot open " ++ path ++ ": " ++ fault.text

/-- Opens a file for writing. One that is there may be kept from being replaced. -/
def openFile (files : Files) (keep : Bool) (path : String) (mode : Opening) :
    Except String (Files × Sink) :=
  match files.place true (pathOf path) with
  | .error fault => .error (cannotCreate path fault)
  | .ok ⟨location, none⟩ => .ok (files.put location (.file [] false), .file location)
  | .ok ⟨location, some (.file bytes executable)⟩ =>
    if keep && mode = .replace then .error (cannotCreate path .exists)
    else
      let bytes := if mode = .append then bytes else []
      .ok (files.put location (.file bytes executable), .file location)
  | .ok ⟨_, some (.directory _)⟩ => .error (cannotCreate path .isADirectory)
  | .ok ⟨_, some _⟩ => .ok (files, .nowhere)

def duplicate (descriptor source : Nat) : Expanding Unit := do
  let state ← get
  match state.sink? source, state.source? source with
  | none, some _ => if descriptor = source then return
  | _, _ => pure ()
  match state.sink? source, state.source? source with
  | some sink, _ => modify fun state => state.redirect descriptor sink
  | none, some bytes => modify fun state => state.feed descriptor bytes (some source)
  | none, none => throw (.refusal (toString source ++ ": Bad file descriptor"))

def redirectOne (shell : Surroundings) (redirection : Redirection) : Expanding Unit := do
  match redirection with
  | .duplicate descriptor source =>
    match (← expandText shell source).toList with
    | ['-'] => modify fun state => state.close descriptor
    | [c] =>
      if c.isDigit then duplicate descriptor (c.toNat - '0'.toNat)
      else throw (.complaint "Syntax error: Bad fd number")
    | _ => throw (.complaint "Syntax error: Bad fd number")
  | .write descriptor path mode => do
    let path ← expandText shell path
    let state ← get
    match state.files.descriptor? (pathOf path), openFile state.files (state.has 'C') path mode with
    | some source, _ => duplicate descriptor source
    | none, .ok (files, sink) =>
      modify fun state => { state with files }.redirect descriptor sink
    | none, .error text => throw (.refusal text)
  | .hereText descriptor text => do
    let text := joined (← expandPieces shell text)
    modify fun state => state.feed descriptor (Text.ofOctets text) none
  | .read descriptor path => do
    let path ← expandText shell path
    match (← get).files.find (pathOf path), (← get).files.read (pathOf path) with
    | .ok (.device (.descriptor source)), _ => duplicate descriptor source
    | .ok _, .ok bytes => modify fun state => state.feed descriptor bytes none
    | .ok _, .error _ => modify fun state => state.feed descriptor [] none
    | .error fault, _ => throw (.refusal (cannotOpen path fault))

def redirectAll (shell : Surroundings) : List Redirection → Expanding Unit
  | [] => return
  | redirection :: rest => do
    redirectOne shell redirection
    redirectAll shell rest

def isOfInput : Redirection → Bool
  | .read descriptor _ | .hereText descriptor _ | .duplicate descriptor _ => descriptor = 0
  | _ => false

def restored (redirections : List Redirection) (state inner after : State) : State :=
  let sources := match inner.sharedSource with
    | some source => (source, after.input) :: after.sources.filter (·.1 != source)
    | none => after.sources
  { after with
    descriptors := state.descriptors
    sources := sources
    sharedSource := state.sharedSource
    input := if redirections.any isOfInput then state.input else after.input }

/-- Runs something with redirections, which end with it. One that fails ends the script if a
command stands there that is too important to fail. -/
def withRedirections (shell : Surroundings) (line : Nat) (isSpecial : Bool)
    (redirections : List Redirection) (state : State) (body : State → Progress) : Progress :=
  match redirectAll shell redirections state with
  | (.error (.refusal text), after) =>
    let after := (restored redirections state after after).complainWithin line text
    if isSpecial then (some (.exit 2), after) else proceed 2 after
  | (.error (.complaint text), after) => (some (.exit 2), after.complainWithin line text)
  | (.error (.stop stop), after) => (some stop, restored redirections state after after)
  | (.ok (), inner) =>
    let (stop, after) := body inner
    (stop, restored redirections state inner after)

/-! ## Commands -/

def expanding {α : Type} (line : Nat) (expansion : Expanding α) (state : State)
    (next : α → State → Progress) : Progress :=
  match expansion state with
  | (.ok a, state) => next a state
  | (.error (.complaint text), state) | (.error (.refusal text), state) =>
    (some (.exit 2), state.complainWithin line text)
  | (.error (.stop stop), state) => (some stop, state)

def assignAll (shell : Surroundings) :
    List (String × Word) → Expanding (List (String × String))
  | [] => return []
  | (name, word) :: rest => do
    let text ← expandValue shell word
    assignTo name text
    return (name, text) :: (← assignAll shell rest)

def traced (sink? : Option Sink) (assigned : List (String × String)) (words : List String)
    (state : State) : State :=
  if state.has 'x' then
    let shown := assigned.map (fun (name, value) => name ++ "=" ++ value) ++ words
    let text := (state.lookup "PS4").getD "" ++ " ".intercalate shown ++ "\n"
    state.writeTo sink? (Text.ofOctets text)
  else state

def putBackAll (assigned : List (String × String)) (before after : State) : State :=
  assigned.foldl (fun state (name, _) => state.putBack name (before.binding? name)) after

def call (shell : Surroundings) (body : Command) (arguments : List String) (state : State) :
    Progress :=
  let restore (after : State) : State :=
    let after := (after.locals.getD []).foldl (fun state (name, old) => state.putBack name old) after
    { after with arguments := state.arguments, loops := state.loops, locals := state.locals }
  match shell.run shell.isTested body { state with arguments, loops := 0, locals := some [] } with
  | (some (.back code), after) => proceed code (restore after)
  | (stop, after) => (stop, restore after)

def noticingLoss (line : Nat) (name : String) : Progress → Progress
  | (stop, state) =>
    if state.isLost then
      let state := { state with isLost := false, status := if state.status = 0 then 1 else state.status }
      (stop, state.complain line (name ++ ": " ++ name ++ ": I/O error"))
    else (stop, state)

/-- Runs a command by its name: a command of the shell that cannot be replaced, a function, any
other command of the shell, or a program. -/
def runNamed (shell : Surroundings) (line : Nat) (useFunctions : Bool)
    (assigned : List (String × String)) (before : State) (name : String)
    (arguments : List String) (state : State) : Progress :=
  let function? := if useFunctions then state.function? name else none
  let exported := assigned.foldl (fun state (name, _) => state.markExported name) state
  match specialNames.contains name, function?, builtin? name with
  | true, _, some builtin => noticingLoss line name (builtin shell line arguments state)
  | _, some body, _ =>
    let (stop, after) := call shell body arguments exported
    (stop, putBackAll assigned before after)
  | _, none, some builtin =>
    let (stop, after) := noticingLoss line name (builtin shell line arguments exported)
    (stop, putBackAll assigned before after)
  | _, none, none =>
    let (stop, after) := external shell.start line (name :: arguments) exported
    (stop, putBackAll assigned before after)

def runCommand (shell : Surroundings) (line : Nat) (assigned : List (String × String))
    (before : State) (arguments : List String) (state : State) : Progress :=
  match partOptions ['v', 'V', 'p'] [] arguments with
  | .error text => failWith line 2 ("command: " ++ text) state
  | .ok parting =>
    match parting.operands, parting.letters.find? (· ∈ ['v', 'V']) with
    | [], _ => proceed 0 state
    | name :: _, some 'v' => locate name state
    | name :: _, some _ => describeNames 0 [name] state
    | name :: arguments, none => runNamed shell line false assigned before name arguments state

def runAssignments (shell : Surroundings) (command : Simple) (state : State) : Progress :=
  let errors := state.sink? 2
  withRedirections shell command.line false command.redirections state fun state =>
    expanding command.line (assignAll shell command.assignments) state fun assigned after =>
      let after := if assigned.isEmpty then after else traced errors assigned [] after
      proceed after.substituted after

def runSimple (shell : Surroundings) (command : Simple) (state : State) : Progress :=
  let line := command.line
  expanding line (expandCommand shell command.words) { state with substituted := 0 } fun words state =>
    let prepared (body : List (String × String) → State → State → Progress) (inner : State) : Progress :=
      expanding line (assignAll shell command.assignments) inner fun assigned after =>
        body assigned inner (traced (state.sink? 2) assigned words after)
    let redirected := withRedirections shell line (words.head?.any specialNames.contains)
      command.redirections state
    match words with
    | [] => runAssignments shell command state
    | ["exec"] =>
      expanding line (redirectAll shell command.redirections) state
        fun () => prepared fun _ _ => proceed 0
    | "exec" :: words => redirected (prepared fun assigned _ state =>
        replace shell.start line words
          (assigned.foldl (fun state (name, _) => state.markExported name) state))
    | "command" :: arguments => redirected (prepared fun assigned before =>
        runCommand shell line assigned before arguments)
    | name :: arguments => redirected (prepared fun assigned before =>
        runNamed shell line true assigned before name arguments)

def checked (tested : Bool) : Progress → Progress
  | (none, state) =>
    if state.has 'e' && !tested && state.status != 0 then (some (.exit state.status), state)
    else (none, state)
  | stopped => stopped

/-- How a loop goes on after a round: with the state, or with how the loop ends. -/
def afterRound : Progress → Except Progress State
  | (none, state) | (some (.again 0), state) => .ok state
  | (some (.leave 0), state) => .error (none, state)
  | (some (.leave (more + 1)), state) => .error (some (.leave more), state)
  | (some (.again (more + 1)), state) => .error (some (.again more), state)
  | (some stop, state) => .error (some stop, state)

def roundLimit : Nat := 100000

def iterate (whileTrue : Bool) (condition body : State → Progress) : Nat → State → Progress
  | 0, state => (some .overtime, state)
  | rounds + 1, state =>
    match condition state with
    | (some stop, state) =>
      match afterRound (some stop, state) with
      | .ok state => (none, state)
      | .error progress => progress
    | (none, state) =>
      if (state.status == 0) == whileTrue then
        match afterRound (body state) with
        | .ok state => iterate whileTrue condition body rounds state
        | .error progress => progress
      else (none, { state with status := 0 })

def runEach (name : String) (body : State → Progress) : List String → State → Progress
  | [], state => (none, state)
  | value :: rest, state =>
    match afterRound (body (state.assign name value)) with
    | .ok state => runEach name body rest state
    | .error progress => progress

def unlessUnrun (body : State → Progress) (state : State) : Progress :=
  if state.has 'n' then (none, state) else body state

def inLoop (body : State → Progress) (state : State) : Progress :=
  let (stop, after) := body { state with loops := state.loops + 1 }
  (stop, { after with loops := state.loops })

def andThen (first : Progress) (next : State → Progress) : Progress :=
  match first with
  | (none, state) => next state
  | stopped => stopped

/-- Lets the second read what the first writes. One that would write without end is stopped when
the second has ended. -/
def pipe (run : Command → State → Progress) (first second : State → Progress) (state : State) :
    Progress :=
  let (bytes, stop, after) := capture run first state
  let isEndless := stop = some .overtime && !Task.isOver after.limit after.elapsed
  if stop.isSome && !isEndless then (stop, after)
  else
    let (stop, last) := apart run second { after with input := bytes }
    (stop, { last with input := after.input })

def fitsAny (shell : Surroundings) (text : String) : List Word → Expanding Bool
  | [] => return false
  | word :: rest => do
    if (patternOf (← withHomes false (← expandPieces shell word))).fits text.toList then return true
    fitsAny shell text rest

mutual

def run (shell : Surroundings) (tested : Bool) : Command → State → Progress
  | .nothing, state => (none, state)
  | .simple command, state =>
    checked tested (unlessUnrun (runSimple { shell with isTested := tested } command) state)
  | .sequence first second, state =>
    andThen (run shell tested first state) (run shell tested second)
  | .both first second, state =>
    andThen (run shell true first state) fun state =>
      if state.status = 0 then run shell tested second state else (none, state)
  | .either first second, state =>
    andThen (run shell true first state) fun state =>
      if state.status = 0 then (none, state) else run shell tested second state
  | .negated command, state =>
    andThen (run shell true command state) fun state => proceed (if state.status = 0 then 1 else 0) state
  | .piped first second, state =>
    checked tested (pipe (shell.run false) (run shell true first) (run shell tested second) state)
  | .apart command, state => checked tested (apart (shell.run false) (run shell tested command) state)
  | .behind command, state => behind (shell.run false) (run shell true command) state
  | .loop whileTrue condition body, state =>
    inLoop (iterate whileTrue (run shell true condition) (run shell tested body) roundLimit) state
  | .each line name words body, state =>
    expanding line (expandWords shell words) state fun values state =>
      if state.isFixed name then abort line (name ++ ": is read only") state
      else inLoop (runEach name (run shell tested body) values)
        (if values.isEmpty then { state with status := 0 } else state)
  | .branch condition yes no, state =>
    andThen (run shell true condition state) fun state =>
      if state.status = 0 then run shell tested yes state
      else run shell tested no (if no.isNothing then { state with status := 0 } else state)
  | .choice line word cases, state =>
    expanding line (expandText shell word) state fun text state =>
      runCases shell tested line text cases state
  | .define name body, state =>
    proceed 0 { state with functions := (name, body) :: state.functions }
  | .redirected line redirections command, state =>
    withRedirections shell line false redirections state (run shell tested command)

def runCases (shell : Surroundings) (tested : Bool) (line : Nat) (text : String) :
    Cases → State → Progress
  | .none, state => proceed 0 state
  | .more patterns body rest, state =>
    expanding line (fitsAny shell text patterns) state fun fits state =>
      if fits then run shell tested body (if body.isNothing then { state with status := 0 } else state)
      else runCases shell tested line text rest state

end

def runTo (start : Starter) : Nat → Bool → Command → State → Progress
  | 0, _, _, state => (some .overtime, state)
  | depth + 1, tested, command, state =>
    run ⟨start, runTo start depth, tested⟩ tested command state

def depthLimit : Nat := 64

def Stop.ending (state : State) : Stop → Ending
  | exit code | back code => .exited (exitStatus code)
  | killed signal => .killed signal
  | overtime => .overtime
  | leave _ | again _ => .exited (exitStatus state.status)

def finish (run : Command → State → Progress) (ending : Ending) (state : State) : Ending × State :=
  match ending with
  | .exited code =>
    let (stop, state) := runExitTrap run code state
    ((stop.map (Stop.ending state)).getD (.exited code), state)
  | ending => (ending, state)

/-- Runs a script from a state to its end. What it leaves in the background is waited for, for it
still holds what is written to. -/
def runScript (start : Starter) (text : String) (state : State) : Performance :=
  let run := runTo start depthLimit false
  let (stop, state) := runText run text state
  let ending := (stop.map (Stop.ending state)).getD (.exited (exitStatus state.status))
  let (ending, state) := finish run ending state
  let elapsed := state.lastEnding
  let ending := if Task.isOver state.limit elapsed then .overtime else ending
  ⟨state.files, state.output.reverse, elapsed, ending⟩

end FontSubset.Shell

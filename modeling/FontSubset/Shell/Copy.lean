import FontSubset.Shell.Script
import FontSubset.Shell.State
/-! Scripts run to their first mistake, in the shell itself or in a copy of it. Files, output
and time are common to a copy and the shell; all else that a copy changes is lost. -/
namespace FontSubset.Shell

def runAll (run : Command → State → Progress) : List Command → State → Progress
  | [], state => (none, state)
  | command :: rest, state =>
    match run command state with
    | (none, state) => runAll run rest state
    | stopped => stopped

def runText (run : Command → State → Progress) (text : String) (state : State) : Progress :=
  let script := Script.read text
  match runAll run script.commands state, script.mistake? with
  | (none, state), some (line, mistake) =>
    (some (.exit 2), state.complainWithin line ("Syntax error: " ++ mistake))
  | progress, _ => progress

def runExitTrap (run : Command → State → Progress) (code : Nat) (state : State) : Progress :=
  match state.traps.lookup 0 with
  | none => (none, { state with status := code })
  | some script =>
    match runText run script { state with status := code, traps := [], context := none } with
    | (none, state) => (none, { state with status := code })
    | stopped => stopped

def exitStatus (status : Nat) : Nat := status % 256

/-- The shell behind a copy that has ended. Only signals and the time limit reach beyond it. -/
def State.comeBack (state : State) : Progress → Progress
  | (some (.killed signal), after) => (some (.killed signal), state.rejoin after (128 + signal))
  | (some .overtime, after) => (some .overtime, state.rejoin after after.status)
  | (some (.exit code), after) | (some (.back code), after) =>
    (none, state.rejoin after (exitStatus code))
  | (_, after) => (none, state.rejoin after (exitStatus after.status))

def apart (run : Command → State → Progress) (body : State → Progress) (state : State) : Progress :=
  let copy := { state with loops := 0, traps := state.traps.filter (·.1 != 0) }
  state.comeBack <| match body copy with
    | (some (.killed signal), after) => (some (.killed signal), after)
    | (some .overtime, after) => (some .overtime, after)
    | (some (.exit code), after) | (some (.back code), after) => runExitTrap run code after
    | (_, after) => runExitTrap run after.status after

def capture (run : Command → State → Progress) (body : State → Progress) (state : State) :
    Bytes × Progress :=
  let (stop, after) := apart run body { state.redirect 1 .pipe with piped := [] }
  (after.piped.reverse.flatten,
    (stop, { after with descriptors := state.descriptors, piped := state.piped }))

/-- Runs something in the background: no time passes meanwhile. What does not end within the
limit ends long after it. -/
def behind (run : Command → State → Progress) (body : State → Progress) (state : State) : Progress :=
  let job (after : State) (ending : Nat) : Job :=
    ⟨State.processNumber + 1 + state.jobs.length, after.status, ending, ""⟩
  let (stop, after) := apart run body { state with input := [] }
  let joined (ending : Nat) : State :=
    { after with input := state.input, elapsed := state.elapsed, jobs := job after ending :: state.jobs }
  match stop with
  | none => proceed 0 (joined after.elapsed)
  | some .overtime => proceed 0 (joined (max after.elapsed (state.limit.getD 0)))
  | some stop => (some stop, joined after.elapsed)

end FontSubset.Shell

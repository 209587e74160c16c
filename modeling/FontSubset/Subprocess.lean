import FontSubset.Environment
import FontSubset.Session
/-! The tool as a child process. It is given a restricted environment if a list of
variables is set, and is stopped at a time limit if there is one. -/
namespace FontSubset

/-- How a child process went. One that was killed has ended without an exit code. -/
inductive ChildResult
  | refused (reason : String)
  | ended (exitCode : Option Int32) (stdout stderr : Bytes)
  | lost (reason : String)
  | overtime
  deriving DecidableEq, Repr

/-- How the tool is started for every font: with the allowed variables or all, and stopped after so
many milliseconds. -/
structure Subprocess where
  tool : Tool
  allowed : Option (List String)
  timeout : Option Nat
  deriving DecidableEq, Repr

namespace Subprocess

def completion (duration : Int64) (exitCode : Option Int32) (stdout stderr : Bytes) : Completion :=
  ⟨exitCode == some 0, exitCode, duration, some (Text.lossy stdout), some (Text.lossy stderr)⟩

variable {σ : Type}

/-- Runs the tool on one font. The clock is read before the start and after the end,
unless the tool did not run to its end. -/
def invoke (child : Subprocess) (now : StateM σ Int64)
    (start : Subprocess → List Bytes → StateM σ ChildResult) (font : Font) (options : Options) :
    StateM σ (Answer × List ToolEvent) := do
  let arguments := options.arguments font
  let begun ← now
  let starting := ToolEvent.starting child.tool font arguments child.timeout
  match ← start child arguments with
  | .refused reason =>
    return (.error (.spawnFailed (child.tool.command ++ ": " ++ reason)), [starting])
  | .lost reason => return (.error (.io reason), [starting])
  | .overtime => return (.error (.timeout (UInt64.ofNat (child.timeout.getD 0))), [starting])
  | .ended exitCode stdout stderr =>
    let ended ← now
    let completion := completion (ended - begun) exitCode stdout stderr
    return (.ok completion, [starting, .exited font completion])

end Subprocess
end FontSubset

import FontSubset.Report
import FontSubset.Text.Tail
/-! What one invocation of the tool comes to, and the outcome that is reported for it. -/
namespace FontSubset

structure Completion where
  isSuccess : Bool
  exitCode : Option Int32
  duration : Int64
  stdout : Option String
  stderr : Option String
  deriving DecidableEq, Repr

/-- What an invocation answers: a nonzero exit is no error. -/
abbrev Answer := Except InvokeError Completion

/-- Bytes of a failed tool's error output that are kept, from its end. -/
def stderrLimit : Nat := 4096

def Completion.outcome (completion : Completion) : Outcome :=
  if completion.isSuccess then .succeeded completion.exitCode
  else .failed completion.exitCode (Text.tail (completion.stderr.getD "") stderrLimit)

def InvokeError.outcome : InvokeError → Outcome
  | spawnFailed reason => .spawnFailed reason
  | io reason => .spawnFailed reason
  | timeout ms => .timedOut ms

def Outcome.ofAnswer : Answer → Outcome
  | .ok completion => completion.outcome
  | .error cause => cause.outcome

end FontSubset

import FontSubset.Options
/-! The result of a run: one line per font with its outcome, and the counts. -/
namespace FontSubset

inductive Outcome
  | succeeded (exitCode : Option Int32)
  | failed (exitCode : Option Int32) (stderr : String)
  | spawnFailed (reason : String)
  | timedOut (milliseconds : UInt64)
  | skipped
  deriving DecidableEq, Repr

namespace Outcome

def isSuccess : Outcome → Bool
  | succeeded _ => true
  | _ => false

def isSkipped : Outcome → Bool
  | skipped => true
  | _ => false

def isFailure (outcome : Outcome) : Bool := !outcome.isSuccess && !outcome.isSkipped

def label : Outcome → String
  | succeeded _ => "OK"
  | failed .. => "FAILED"
  | spawnFailed _ => "SPAWN_FAILED"
  | timedOut _ => "TIMED_OUT"
  | skipped => "SKIPPED"

def display (outcome : Outcome) : String :=
  match outcome with
  | failed (some code) _ => outcome.label ++ " (exit " ++ toString code.toInt ++ ")"
  | failed none _ => outcome.label ++ " (signal)"
  | spawnFailed reason => outcome.label ++ " (" ++ reason ++ ")"
  | timedOut ms => outcome.label ++ " (after " ++ toString ms.toNat ++ "ms)"
  | succeeded _ | skipped => outcome.label

end Outcome

structure FileReport where
  font : Font
  outcome : Outcome
  duration : Int64
  deriving DecidableEq, Repr

/-- Equal up to the spelling of the font's path. -/
def FileReport.same (a b : FileReport) : Bool :=
  a.font.same b.font && a.outcome == b.outcome && a.duration == b.duration

structure Counts where
  total : Nat
  succeeded : Nat
  failed : Nat
  skipped : Nat
  deriving DecidableEq, Repr

structure Report where
  files : List FileReport
  dryRun : Bool
  deriving DecidableEq, Repr

namespace Report

def empty (dryRun : Bool) : Report := ⟨[], dryRun⟩

def push (report : Report) (file : FileReport) : Report :=
  { report with files := report.files ++ [file] }

def total (report : Report) : Nat := report.files.length

def succeeded (report : Report) : Nat := report.files.countP (·.outcome.isSuccess)

def failed (report : Report) : Nat := report.files.countP (·.outcome.isFailure)

def skipped (report : Report) : Nat := report.files.countP (·.outcome.isSkipped)

/-- No font failed; so an empty run is a success. -/
def isSuccess (report : Report) : Bool := report.failed == 0

def counts (report : Report) : Counts :=
  ⟨report.total, report.succeeded, report.failed, report.skipped⟩

def same (a b : Report) : Bool :=
  a.dryRun == b.dryRun && a.files.length == b.files.length &&
    (a.files.zip b.files).all fun (x, y) => x.same y

end Report
end FontSubset

import FontSubset.CommandLine.Complaint
import FontSubset.CommandLine.Configuration
import FontSubset.CommandLine.Help
import FontSubset.CommandLine.Reader
import FontSubset.CommandLine.Summary
import FontSubset.LogFilter.Directive
import FontSubset.Report.Encode
/-! The program: a command line is read, the batch it describes is run, and the report is
printed. What the exit status says does not depend on how the report is printed, unless
it cannot be printed at all. -/
namespace FontSubset.CommandLine

def version : String := "0.1.0"

structure Transcript where
  exitCode : Nat
  stdout : String
  stderr : String
  log : List Event
  logFormat : LogFormat
  deriving DecidableEq, Repr

structure Verdict where
  stdout : String
  complaint : Option Complaint
  deriving DecidableEq, Repr

namespace Verdict

def failure (complaint : Complaint) : Verdict := ⟨"", some complaint⟩

def exitCode (verdict : Verdict) : Nat := if verdict.complaint.isSome then 1 else 0

def stderr (verdict : Verdict) : String := (verdict.complaint.map Complaint.text).getD ""

end Verdict

def complaintOf? (strict : Bool) (report : Report) : Option Complaint :=
  if strict && !report.isSuccess then
    some ⟨toString report.failed ++ " of " ++ toString report.total ++ " invocations failed", []⟩
  else none

def Configuration.print (configuration : Configuration) (colored : Bool) (report : Report) :
    Except EncodeError String :=
  match configuration.report with
  | .table => .ok (Summary.render colored report)
  | .json => report.encode.map fun value => value.writePretty ++ "\n"

def Configuration.verdict (configuration : Configuration) (colored : Bool) :
    Except RunError Report → Verdict
  | .error error => .failure ⟨"fontcut run failed", error.message :: error.inner?.toList⟩
  | .ok report =>
    match configuration.print colored report with
    | .error error => .failure ⟨error.message, []⟩
    | .ok stdout => ⟨stdout, complaintOf? configuration.batch.strict report⟩

variable {σ : Type}

/-- Does what a configuration says. A blank tool is complained about before anything
else is done. -/
def Configuration.perform (configuration : Configuration) (backend : Subprocess → Backend σ)
    (colored : Bool) : Action σ Verdict := do
  Action.say [.programStarting version]
  match Tool.parse configuration.tool with
  | .error cause => return .failure ⟨"Invalid --tool", [cause.message]⟩
  | .ok tool =>
    let batch := configuration.batch
    Action.say [.configured batch.root tool batch.options batch.dryRun]
    let result ← batch.run (backend (configuration.subprocess tool))
    return configuration.verdict colored result

/-- Help and version are answers, a refusal is a failure of its own kind. -/
def Interruption.transcript (environment : Environment) (interruption : Interruption) :
    Transcript :=
  let render := Markup.render (Paint.asked environment)
  match interruption with
  | refused error => ⟨2, "", render error.text, [], .compact⟩
  | help long => ⟨0, render (helpText environment long), "", [], .compact⟩
  | version => ⟨0, "fontcut " ++ CommandLine.version ++ "\n", "", [], .compact⟩

def run (backend : Subprocess → Backend σ) (environment : Environment)
    (accountHome : Option String) (words : List Bytes) : StateM σ Transcript := fun world =>
  match select environment words with
  | .error interruption => (interruption.transcript environment, world)
  | .ok selection =>
    let configuration := Configuration.ofSelection (home? environment accountHome) selection
    let colored := Paint.forced environment
    let (verdict, session) := configuration.perform backend colored ⟨world, []⟩
    let filter := LogFilter.ofVariable (environment.get? (Text.encode "RUST_LOG"))
    (⟨verdict.exitCode, verdict.stdout, verdict.stderr, session.log.filter filter.keeps,
      configuration.logFormat⟩, session.world)

end FontSubset.CommandLine

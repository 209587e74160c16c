import FontSubset.Session
/-! A batch: every font under a root is handed to the tool, one after the other, and a
report tells what became of each. A failing font never stops the batch. -/
namespace FontSubset
open FontSubset.Action (ofWorld say)

structure Batch where
  root : Path
  options : Options
  dryRun : Bool
  strict : Bool
  deriving DecidableEq, Repr

namespace Batch

def defaultRoot : String := "."
def defaultTextFile : String := "./zh-cn-characters.txt"
def defaultTool : String := "pyftsubset"

instance : Inhabited Batch := ⟨⟨defaultRoot, .ofTextFile defaultTextFile, false, false⟩⟩

variable {σ : Type}

def preflight (batch : Batch) (backend : Backend σ) : Action σ (Except RunError Preflight) := do
  let textFile := batch.options.textFile
  let preflight := Preflight.check textFile (← ofWorld (backend.presence textFile))
  say (preflight.map .preflightFailed)
  if batch.strict then return preflight.verdict.map fun () => preflight
  else return .ok preflight

def skip (font : Font) : Action σ FileReport := do
  let file : FileReport := ⟨font, .skipped, 0⟩
  say [.ofFile file]
  return file

/-- How long an invocation took. The tool says so itself unless it did not run to its
end; then the clock is read a second time. -/
def duration (backend : Backend σ) (start : Int64) : Answer → Action σ Int64
  | .ok completion => return completion.duration
  | .error _ => do return (← ofWorld backend.now) - start

def cut (batch : Batch) (backend : Backend σ) (font : Font) : Action σ FileReport := do
  let start ← ofWorld backend.now
  say [.invoking font]
  let (answer, events) ← ofWorld (backend.invoke font batch.options)
  say (events.map .tool)
  let file : FileReport := ⟨font, .ofAnswer answer, ← duration backend start answer⟩
  say [.ofFile file]
  return file

def handle (batch : Batch) (backend : Backend σ) (font : Font) : Action σ FileReport :=
  if batch.dryRun then skip font else batch.cut backend font

def scan (batch : Batch) (backend : Backend σ) : Action σ (Except ScanError (List Font)) := do
  say [.scanning batch.root]
  let (result, events) ← ofWorld (backend.scan batch.root)
  say (events.map .scan)
  if let .ok fonts := result then say [.scanned batch.root fonts.length]
  return result

def report (batch : Batch) (backend : Backend σ) (fonts : List Font) : Action σ Report := do
  let files ← fonts.mapM (batch.handle backend)
  let report : Report := ⟨files, batch.dryRun⟩
  say [.completed report.counts]
  return report

def run (batch : Batch) (backend : Backend σ) : Action σ (Except RunError Report) := do
  match ← batch.preflight backend with
  | .error error => return .error error
  | .ok _ =>
    match ← batch.scan backend with
    | .error error => return .error (.scan error)
    | .ok fonts => return .ok (← batch.report backend fonts)

end Batch
end FontSubset

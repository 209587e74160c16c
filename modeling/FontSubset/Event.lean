import FontSubset.Invocation
import FontSubset.Json.Value
import FontSubset.Preflight
import FontSubset.Text.Quoted
/-! The events of a run. The scanner and the tool have events of their own, so that no
backend can speak for the run itself. -/
namespace FontSubset
open Json (Value)

inductive Level
  | error
  | warn
  | info
  | debug
  | trace
  deriving DecidableEq, Repr

namespace Level

def name : Level → String
  | error => "ERROR"
  | warn => "WARN"
  | info => "INFO"
  | debug => "DEBUG"
  | trace => "TRACE"

def fineness : Level → Nat
  | error => 1
  | warn => 2
  | info => 3
  | debug => 4
  | trace => 5

end Level

inductive ScanEvent
  | found (path : Path)
  | unreadable (path : Path) (reason : String)
  deriving DecidableEq, Repr

inductive ToolEvent
  | starting (tool : Tool) (font : Font) (arguments : List Bytes) (timeout : Option Nat)
  | exited (font : Font) (completion : Completion)
  deriving DecidableEq, Repr

inductive Event
  | programStarting (version : String)
  | configured (root : Path) (tool : Tool) (options : Options) (dryRun : Bool)
  | preflightFailed (issue : PreflightIssue)
  | scanning (root : Path)
  | scan (event : ScanEvent)
  | scanned (root : Path) (count : Nat)
  | skipping (font : Font)
  | invoking (font : Font)
  | tool (event : ToolEvent)
  | written (font : Font) (duration : Int64)
  | toolFailed (font : Font) (exitCode : Option Int32) (stderr : String)
  | toolIncomplete (font : Font) (outcome : Outcome)
  | completed (counts : Counts)
  deriving DecidableEq, Repr

def showOption : Option Int → String
  | some n => "Some(" ++ toString n ++ ")"
  | none => "None"

def showExitCode (code : Option Int32) : String := showOption (code.map Int32.toInt)

def pathField (name : String) (path : Path) : String × Value := (name, .text path.display)

def fontField (font : Font) : String × Value := pathField "font" font.path

namespace ScanEvent

def level : ScanEvent → Level
  | found _ => .debug
  | unreadable .. => .warn

def message : ScanEvent → String
  | found _ => "Found font"
  | unreadable .. => "Skipping unreadable entry"

def fields : ScanEvent → List (String × Value)
  | found path => [pathField "path" path]
  | unreadable path reason =>
    [("error", .text ("IO error for operation on " ++ path.display ++ ": " ++ reason)),
      ("path", .text ("Some(" ++ Text.quoteBytes path.bytes ++ ")"))]

end ScanEvent

namespace ToolEvent

def level : ToolEvent → Level
  | starting .. => .info
  | exited .. => .debug

def message : ToolEvent → String
  | starting .. => "Starting subsetting tool"
  | exited .. => "Subsetting tool exited"

def fields : ToolEvent → List (String × Value)
  | starting tool font arguments timeout =>
    [("program", .text tool.command), fontField font,
      ("args", .text (Text.bracketed (arguments.map Text.quoteBytes))),
      ("timeout_ms", .text (showOption (timeout.map Int.ofNat)))]
  | exited font completion =>
    [fontField font, ("duration_ms", .text (toString completion.duration.toInt)),
      ("exit_code", .text (showExitCode completion.exitCode)),
      ("status", .text (if completion.isSuccess then "Success" else "Failed"))]

end ToolEvent

namespace Event

def level : Event → Level
  | preflightFailed _ | toolFailed .. | toolIncomplete .. => .warn
  | invoking _ => .debug
  | scan event => event.level
  | tool event => event.level
  | programStarting _ | configured .. | scanning _ | scanned .. | skipping _ | written .. |
    completed _ => .info

/-- The part of the program that an event comes from, which log filters go by. -/
def target : Event → String
  | programStarting _ | configured .. => "fontcut"
  | scan _ => "fontcut_infra_system::walkdir_scanner"
  | tool _ => "fontcut_infra_system::subprocess_invoker"
  | preflightFailed _ | scanning _ | scanned .. | skipping _ | invoking _ | written .. |
    toolFailed .. | toolIncomplete .. | completed _ => "fontcut_core::application::cut"

def message : Event → String
  | programStarting version => "fontcut v" ++ version ++ " starting..."
  | configured .. => "Configuration loaded"
  | preflightFailed _ => "Preflight check failed"
  | scanning _ => "Scanning for fonts"
  | scan event => event.message
  | scanned .. => "Scan completed"
  | skipping _ => "Dry run, skipping"
  | invoking _ => "Invoking subsetting tool"
  | tool event => event.message
  | written .. => "Font subset written"
  | toolFailed .. => "Subsetting tool failed"
  | toolIncomplete .. => "Subsetting tool did not complete"
  | completed _ => "Run completed"

def fields : Event → List (String × Value)
  | programStarting _ => []
  | configured root program options dryRun =>
    [pathField "root" root, ("tool", .text program.command), ("flavor", .text options.flavor.name),
      pathField "text_file" options.textFile, ("dry_run", .bool dryRun)]
  | preflightFailed issue => [("issue", .text issue.message)]
  | scanning root => [pathField "root" root]
  | scan event => event.fields
  | scanned root count => [pathField "root" root, ("count", .int count)]
  | skipping font => [fontField font]
  | invoking font => [fontField font]
  | tool event => event.fields
  | written font duration => [fontField font, ("duration_ms", .int duration.toInt)]
  | toolFailed font code stderr =>
    [fontField font, ("exit_code", .text (showExitCode code)), ("stderr", .text stderr)]
  | toolIncomplete font outcome => [fontField font, ("outcome", .text outcome.display)]
  | completed counts =>
    [("total", .int counts.total), ("succeeded", .int counts.succeeded),
      ("failed", .int counts.failed), ("skipped", .int counts.skipped)]

def ofFile (file : FileReport) : Event :=
  match file.outcome with
  | .succeeded _ => written file.font file.duration
  | .failed code stderr => toolFailed file.font code stderr
  | .skipped => skipping file.font
  | .spawnFailed _ | .timedOut _ => toolIncomplete file.font file.outcome

end Event
end FontSubset

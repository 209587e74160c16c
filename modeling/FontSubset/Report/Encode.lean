import FontSubset.Json.Value
import FontSubset.Report
/-! The JSON encoding of options, outcomes and reports. A path is written as text, so
what holds a path that is not UTF-8 has no encoding. -/
namespace FontSubset
open Json (Value)

inductive EncodeError
  | pathNotUtf8
  deriving DecidableEq, Repr

def EncodeError.message : EncodeError → String
  | pathNotUtf8 => "path contains invalid UTF-8 characters"

abbrev Encoded := Except EncodeError Value

def Path.encode (path : Path) : Encoded :=
  match path.text? with
  | some text => .ok (.text text)
  | none => .error .pathNotUtf8

def Font.encode (font : Font) : Encoded := font.path.encode

def Flavor.encode (flavor : Flavor) : Value := .text flavor.name

def Tool.encode (tool : Tool) : Value := .text tool.command

def Options.encode (options : Options) : Encoded := do
  let textFile ← options.textFile.encode
  return .object [("flavor", options.flavor.encode), ("with_zopfli", .bool options.withZopfli),
    ("text_file", textFile)]

inductive Status
  | succeeded
  | failed
  | spawnFailed
  | timedOut
  | skipped
  deriving DecidableEq, Repr

namespace Status

def all : List Status := [succeeded, failed, spawnFailed, timedOut, skipped]

def name : Status → String
  | succeeded => "SUCCEEDED"
  | failed => "FAILED"
  | spawnFailed => "SPAWN_FAILED"
  | timedOut => "TIMED_OUT"
  | skipped => "SKIPPED"

def ofName? (name : String) : Option Status := all.find? (·.name == name)

def encode (status : Status) : String × Value := ("status", .text status.name)

end Status

def encodeExitCode : Option Int32 → Value
  | some code => .int code.toInt
  | none => .null

def Outcome.encode : Outcome → Value
  | succeeded code => .object [Status.succeeded.encode, ("exit_code", encodeExitCode code)]
  | failed code stderr =>
    .object [Status.failed.encode, ("exit_code", encodeExitCode code), ("stderr", .text stderr)]
  | spawnFailed reason => .object [Status.spawnFailed.encode, ("reason", .text reason)]
  | timedOut ms => .object [Status.timedOut.encode, ("timeout_ms", .int ms.toNat)]
  | skipped => .object [Status.skipped.encode]

def FileReport.encode (file : FileReport) : Encoded := do
  let font ← file.font.encode
  return .object [("font", font), ("outcome", file.outcome.encode),
    ("duration_ms", .int file.duration.toInt)]

def encodeFiles : List FileReport → Except EncodeError (List Value)
  | [] => .ok []
  | file :: rest => do
    let file ← file.encode
    let rest ← encodeFiles rest
    return file :: rest

def Report.encode (report : Report) : Encoded := do
  let files ← encodeFiles report.files
  return .object [("files", .array files), ("dry_run", .bool report.dryRun)]

end FontSubset

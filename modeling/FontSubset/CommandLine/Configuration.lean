import FontSubset.CommandLine.Selection
import FontSubset.Subprocess
/-! What is to be done, with nothing left open: defaults take the place of what was not
chosen, and a tilde in front stands for the home directory. -/
namespace FontSubset.CommandLine

/-- The tool's command may yet turn out to be blank; the timeout is in milliseconds. -/
structure Configuration where
  batch : Batch
  tool : String
  allowed : Option (List String)
  timeout : Option Nat
  logFormat : LogFormat
  report : ReportFormat
  deriving DecidableEq, Repr

/-- The home directory: the variable's value, or that of the account if it is not set or
empty. There is none if it is not UTF-8. -/
def home? (environment : Environment) (accountHome : Option String) : Option String :=
  match environment.get? (Text.encode "HOME") with
  | none | some [] => accountHome
  | some bytes => Text.decode? bytes

def expandHome (home : Option String) (text : String) : String :=
  match home, text.toList with
  | some home, ['~'] => home
  | some home, '~' :: '/' :: rest => home ++ String.ofList ('/' :: rest)
  | _, _ => text

namespace Configuration

def ofSelection (home : Option String) (selection : Selection) : Configuration where
  batch :=
    { root := expandHome home (selection.root.getD Batch.defaultRoot)
      options :=
        { flavor := selection.flavor.getD .woff2
          withZopfli := !selection.noZopfli
          textFile := expandHome home (selection.textFile.getD Batch.defaultTextFile) }
      dryRun := selection.dryRun
      strict := selection.strict }
  tool := expandHome home (selection.tool.getD Batch.defaultTool)
  allowed := selection.allowlist
  timeout := selection.timeoutSecs.map fun seconds => seconds.toNat * 1000
  logFormat := selection.logFormat.getD .compact
  report := selection.report.getD .table

def subprocess (configuration : Configuration) (tool : Tool) : Subprocess :=
  ⟨tool, configuration.allowed, configuration.timeout⟩

end Configuration
end FontSubset.CommandLine

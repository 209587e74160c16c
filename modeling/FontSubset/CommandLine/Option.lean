import FontSubset.Batch
import FontSubset.CommandLine.Markup
/-! What can be given on the command line: settings with a value, and switches. -/
namespace FontSubset.CommandLine

inductive LogFormat
  | pretty
  | compact
  | json
  deriving DecidableEq, Repr

inductive ReportFormat
  | table
  | json
  deriving DecidableEq, Repr

structure Choices (α : Type) where
  list : List (String × α × Option String)

def Choices.find? {α : Type} (choices : Choices α) (name : String) : Option α :=
  (choices.list.find? (·.1 == name)).map (·.2.1)

def Choices.names {α : Type} (choices : Choices α) : List String := choices.list.map (·.1)

def LogFormat.choices : Choices LogFormat where
  list := [("pretty", .pretty, some "Multi-line with colors"),
    ("compact", .compact, some "One line per event"),
    ("json", .json, some "JSON structured logging (for CI log collectors)")]

def ReportFormat.choices : Choices ReportFormat where
  list := [("table", .table, none), ("json", .json, none)]

/-- What takes a value. The root has no name: it is the word that stands alone. -/
inductive Setting
  | root
  | tool
  | textFile
  | flavor
  | envAllowlist
  | timeoutSecs
  | logFormat
  | report
  deriving DecidableEq, Repr

inductive Switch
  | noZopfli
  | dryRun
  | strict
  | help
  | version
  deriving DecidableEq, Repr

namespace Setting

def all : List Setting :=
  [root, tool, textFile, flavor, envAllowlist, timeoutSecs, logFormat, report]

def name : Setting → String
  | root => "root"
  | tool => "tool"
  | textFile => "text-file"
  | flavor => "flavor"
  | envAllowlist => "env-allowlist"
  | timeoutSecs => "timeout-secs"
  | logFormat => "log-format"
  | report => "report"

def placeholder : Setting → String
  | root => "ROOT"
  | tool => "TOOL"
  | textFile => "TEXT_FILE"
  | flavor => "FLAVOR"
  | envAllowlist => "ENV_ALLOWLIST"
  | timeoutSecs => "TIMEOUT_SECS"
  | logFormat => "LOG_FORMAT"
  | report => "REPORT"

def option (setting : Setting) : String := "--" ++ setting.name

def display : Setting → String
  | root => "[ROOT]"
  | setting => setting.option ++ " <" ++ setting.placeholder ++ ">"

def variableName? : Setting → Option String
  | report => none
  | setting => some ("FONTCUT_" ++ setting.placeholder)

def default? : Setting → Option String
  | root => some Batch.defaultRoot
  | tool => some Batch.defaultTool
  | textFile => some Batch.defaultTextFile
  | flavor => some Flavor.woff2.name
  | logFormat => some "compact"
  | report => some "table"
  | envAllowlist | timeoutSecs => none

def choices : Setting → List (String × Option String)
  | logFormat => LogFormat.choices.list.map fun (name, _, help) => (name, help)
  | report => ReportFormat.choices.list.map fun (name, _, help) => (name, help)
  | _ => []

def about : Setting → String
  | root => "Directory to scan recursively"
  | tool => "Subsetting executable (name on PATH or a path)"
  | textFile => "File listing the characters to keep"
  | flavor => "Output flavor (woff2, woff)"
  | envAllowlist => "Pass only these environment variables to the tool, comma-separated " ++
      "(default: inherit the whole environment)"
  | timeoutSecs => "Kill the tool if one font takes longer than this"
  | logFormat => "Log format"
  | report => "Summary format on stdout"

def named? (name : String) : Option Setting :=
  (all.drop 1).find? (·.name == name)

end Setting

namespace Switch

def all : List Switch := [noZopfli, dryRun, strict, help, version]

def name : Switch → String
  | noZopfli => "no-zopfli"
  | dryRun => "dry-run"
  | strict => "strict"
  | help => "help"
  | version => "version"

def display (switch : Switch) : String := "--" ++ switch.name

def short? : Switch → Option String
  | help => some "h"
  | version => some "V"
  | noZopfli | dryRun | strict => none

def named? (name : String) : Option Switch := all.find? (·.name == name)

end Switch

def usage : Markup :=
  [.heading "Usage:", .plain " ", .literal "fontcut", .plain " [OPTIONS] [ROOT]"]

inductive UsageError
  | unexpectedArgument (shown : String)
  | missingValue (setting : Setting)
  | repeated (shown : String)
  | unneededValue (value : String) (switch : Switch)
  | invalidValue (value : String) (setting : Setting) (reason : Option String)
  | notUtf8
  deriving DecidableEq, Repr

namespace UsageError

def message : UsageError → Markup
  | unexpectedArgument shown => [.plain "unexpected argument '", .invalid shown, .plain "' found"]
  | missingValue setting =>
    [.plain "a value is required for '", .invalid setting.display,
      .plain "' but none was supplied"]
  | repeated shown =>
    [.plain "the argument '", .invalid shown, .plain "' cannot be used multiple times"]
  | unneededValue value switch =>
    [.plain "unexpected value '", .invalid value, .plain "' for '", .literal switch.display,
      .plain "' found; no more were expected"]
  | invalidValue value setting reason =>
    [.plain "invalid value '", .invalid value, .plain "' for '", .literal setting.display,
      .plain "'"] ++ (reason.map fun reason => Stretch.plain (": " ++ reason)).toList
  | notUtf8 => [.plain "invalid UTF-8 was detected in one or more arguments"]

def detail : UsageError → Markup
  | unexpectedArgument _ | repeated _ | unneededValue .. | notUtf8 => .plain "\n\n" :: usage
  | missingValue setting | invalidValue _ setting none =>
    match setting.choices with
    | [] => []
    | choices =>
      .plain "\n  [possible values: " ::
        Markup.separated ", " (choices.map fun (name, _) => .valid name) ++ [.plain "]"]
  | invalidValue _ _ (some _) => []

def text (error : UsageError) : Markup :=
  [.alarm "error:", .plain " "] ++ error.message ++ error.detail ++
    [.plain "\n\nFor more information, try '", .literal "--help", .plain "'.\n"]

end UsageError
end FontSubset.CommandLine

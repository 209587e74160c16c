import FontSubset.Error
/-! What is checked before any font is touched: the character list has to be there and
to be a regular file. -/
namespace FontSubset

inductive Presence
  | missing
  | file
  | other
  deriving DecidableEq, Repr

inductive PreflightIssue
  | textFileMissing (path : Path)
  | textFileNotAFile (path : Path)
  deriving DecidableEq, Repr

namespace PreflightIssue

def path : PreflightIssue → Path
  | textFileMissing path => path
  | textFileNotAFile path => path

def message : PreflightIssue → String
  | textFileMissing path => "character list " ++ path.display ++ " does not exist"
  | textFileNotAFile path => "character list " ++ path.display ++ " is not a file"

end PreflightIssue

abbrev Preflight := List PreflightIssue

namespace Preflight

def check (textFile : Path) : Presence → Preflight
  | .missing => [.textFileMissing textFile]
  | .other => [.textFileNotAFile textFile]
  | .file => []

def verdict (preflight : Preflight) : Except RunError Unit :=
  match preflight.head? with
  | some issue => .error (.config issue.message)
  | none => .ok ()

end Preflight
end FontSubset

import FontSubset.Path.Basic
/-! What can go wrong, as causes, and the text of each. -/
namespace FontSubset

inductive SettingError
  | unknownFlavor (text : String)
  | emptyTool
  deriving DecidableEq, Repr

def SettingError.message : SettingError → String
  | unknownFlavor text => "Unknown flavor: " ++ text ++ " (expected woff2 or woff)"
  | emptyTool => "Tool command must not be empty"

inductive ScanError
  | rootNotFound (root : Path)
  | notADirectory (root : Path)
  | io (reason : String)
  | taskFailed (reason : String)
  deriving DecidableEq, Repr

def ScanError.message : ScanError → String
  | rootNotFound root => "Scan root not found: " ++ root.display
  | notADirectory root => "Scan root is not a directory: " ++ root.display
  | io reason => "IO error: " ++ reason
  | taskFailed reason => "Scan task failed: " ++ reason

inductive InvokeError
  | spawnFailed (reason : String)
  | timeout (milliseconds : UInt64)
  | io (reason : String)
  deriving DecidableEq, Repr

def InvokeError.message : InvokeError → String
  | spawnFailed reason => "Spawn failed: " ++ reason
  | timeout ms => "Process timeout after " ++ toString ms.toNat ++ "ms"
  | io reason => "IO error: " ++ reason

inductive RunError
  | setting (cause : SettingError)
  | scan (cause : ScanError)
  | invoke (cause : InvokeError)
  | config (issue : String)
  deriving DecidableEq, Repr

def RunError.message : RunError → String
  | setting cause => "Domain error: " ++ cause.message
  | scan cause => "Scan error: " ++ cause.message
  | invoke cause => "Invoke error: " ++ cause.message
  | config issue => "Configuration error: " ++ issue

def RunError.inner? : RunError → Option String
  | setting cause => some cause.message
  | scan cause => some cause.message
  | invoke cause => some cause.message
  | config _ => none

end FontSubset

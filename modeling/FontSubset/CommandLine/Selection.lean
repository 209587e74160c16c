import FontSubset.CommandLine.Option
import FontSubset.Environment
/-! What was chosen, and by what words: the command line first, then the environment for
what it leaves open. -/
namespace FontSubset.CommandLine

structure Selection where
  root : Option String
  tool : Option String
  textFile : Option String
  flavor : Option Flavor
  allowlist : Option (List String)
  timeoutSecs : Option UInt64
  logFormat : Option LogFormat
  report : Option ReportFormat
  noZopfli : Bool
  dryRun : Bool
  strict : Bool
  deriving DecidableEq, Repr

inductive Interruption
  | refused (error : UsageError)
  | help (long : Bool)
  | version
  deriving DecidableEq, Repr

namespace Selection

def empty : Selection :=
  ⟨none, none, none, none, none, none, none, none, false, false, false⟩

def has (selection : Selection) : Setting → Bool
  | .root => selection.root.isSome
  | .tool => selection.tool.isSome
  | .textFile => selection.textFile.isSome
  | .flavor => selection.flavor.isSome
  | .envAllowlist => selection.allowlist.isSome
  | .timeoutSecs => selection.timeoutSecs.isSome
  | .logFormat => selection.logFormat.isSome
  | .report => selection.report.isSome

/-- The value of digits that follow digits of a value; it has to stay below `2 ^ 64`. -/
def decimal (value : Nat) : List Char → Except String Nat
  | [] => .ok value
  | c :: rest =>
    if c.isDigit then
      let next := 10 * value + (c.toNat - '0'.toNat)
      if next < UInt64.size then decimal next rest
      else .error "number too large to fit in target type"
    else .error "invalid digit found in string"

def seconds (text : String) : Except String Nat :=
  match text.toList with
  | [] => .error "cannot parse integer from empty string"
  | ['+'] => .error "invalid digit found in string"
  | '+' :: digits => decimal 0 digits
  | digits => decimal 0 digits

def utf8 (bytes : Bytes) : Except UsageError String :=
  match Text.decode? bytes with
  | some text => .ok text
  | none => .error .notUtf8

/-- One of a few values. An empty text counts as no value. -/
def choose {α : Type} (setting : Setting) (choices : Choices α) (bytes : Bytes) :
    Except UsageError α :=
  match (Text.decode? bytes).bind choices.find? with
  | some value => .ok value
  | none =>
    if bytes.isEmpty then .error (.missingValue setting)
    else .error (.invalidValue (Text.lossy bytes) setting none)

/-- Takes a value for a setting. Names of variables add up. -/
def take (selection : Selection) (setting : Setting) (bytes : Bytes) :
    Except UsageError Selection :=
  match setting with
  | .root => (utf8 bytes).map fun text => { selection with root := some text }
  | .tool => (utf8 bytes).map fun text => { selection with tool := some text }
  | .textFile => (utf8 bytes).map fun text => { selection with textFile := some text }
  | .flavor => do
    let text ← utf8 bytes
    match Flavor.parse text with
    | .ok flavor => return { selection with flavor := some flavor }
    | .error cause => .error (.invalidValue text setting (some cause.message))
  | .envAllowlist => do
    let names ← (bytes.splitOn 0x2C).mapM utf8
    return { selection with allowlist := some (selection.allowlist.getD [] ++ names) }
  | .timeoutSecs => do
    let text ← utf8 bytes
    match seconds text with
    | .ok n => return { selection with timeoutSecs := some (UInt64.ofNat n) }
    | .error reason => .error (.invalidValue text setting (some reason))
  | .logFormat =>
    (choose setting LogFormat.choices bytes).map fun format =>
      { selection with logFormat := some format }
  | .report =>
    (choose setting ReportFormat.choices bytes).map fun format =>
      { selection with report := some format }

def takeOnce (selection : Selection) (setting : Setting) (bytes : Bytes) :
    Except UsageError Selection :=
  if selection.has setting && setting ≠ .envAllowlist then .error (.repeated setting.display)
  else selection.take setting bytes

def turnOn (selection : Selection) (switch : Switch) : Except Interruption Selection :=
  let once (isOn : Bool) (changed : Selection) : Except Interruption Selection :=
    if isOn then .error (.refused (.repeated switch.display)) else .ok changed
  match switch with
  | .noZopfli => once selection.noZopfli { selection with noZopfli := true }
  | .dryRun => once selection.dryRun { selection with dryRun := true }
  | .strict => once selection.strict { selection with strict := true }
  | .help => .error (.help true)
  | .version => .error .version

def ask (environment : Environment) (selection : Selection) (setting : Setting) :
    Except UsageError Selection :=
  if selection.has setting then .ok selection
  else
    match setting.variableName?.bind fun name => environment.get? (Text.encode name) with
    | some value => selection.take setting value
    | none => .ok selection

def complete (environment : Environment) (selection : Selection) : Except UsageError Selection :=
  Setting.all.foldlM (ask environment) selection

end Selection
end FontSubset.CommandLine

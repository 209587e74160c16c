import FontSubset.Files.Scan
import FontSubset.Host.Execute
import FontSubset.Subprocess
/-! A machine with files, variables and a clock, on which fonts are scanned and tools
are run as child processes. -/
namespace FontSubset.Host

structure Machine where
  files : Files
  environment : Environment
  clock : Clock

namespace Machine

def now : StateM Machine Int64 := fun machine =>
  let (time, clock) := machine.clock.read
  (time, { machine with clock })

def childEnvironment (machine : Machine) (child : Subprocess) : Environment :=
  match child.allowed with
  | some names => machine.environment.restrict names
  | none => machine.environment

def resultOf (performance : Performance) : ChildResult :=
  match performance.ending with
  | .exited code =>
    .ended (some (Int32.ofNat code)) (performance.written .stdout) (performance.written .stderr)
  | .killed _ => .ended none (performance.written .stdout) (performance.written .stderr)
  | .overtime => .overtime

/-- Runs a child process. One that has no time at all is stopped before it does anything. -/
def start (child : Subprocess) (arguments : List Bytes) : StateM Machine ChildResult :=
  fun machine =>
    let task : Task := ⟨machine.files, machine.childEnvironment child,
      Text.encode child.tool.command :: arguments, child.timeout, []⟩
    match Host.start task with
    | .error fault => (.refused fault.message, machine)
    | .ok performance =>
      if child.timeout = some 0 then (.overtime, machine)
      else
        (resultOf performance,
          { machine with files := { performance.files with here := machine.files.here } })

def backend (child : Subprocess) : Backend Machine where
  now := now
  presence path := fun machine => (machine.files.presence path, machine)
  scan root := fun machine => (machine.files.scan Files.longPath root, machine)
  invoke := child.invoke now start

end Machine

def searchPath : String := "/usr/local/bin:/usr/bin:/bin"

def programNames : List String := programs.map (·.1)

def devices : List (String × Files.Node) :=
  [("null", .device .null), ("zero", .device .zeros), ("stdin", .device (.descriptor 0)),
    ("stdout", .device (.descriptor 1)), ("stderr", .device (.descriptor 2))]

/-- A file tree with the programs in `/usr/bin` and an empty directory to work in. -/
def baseFiles : Files :=
  let directory (entries : List (String × Files.Node)) : Files.Node :=
    .directory (entries.map fun (name, node) => (Text.encode name, node))
  let bin := directory (programNames.map fun name => (name, .program name))
  ⟨directory
    [("bin", .link (Text.encode "usr/bin")),
      ("dev", directory devices), ("etc", directory []), ("home", directory []),
      ("proc", directory []), ("root", directory []),
      ("tmp", directory [("work", directory [])]),
      ("usr", directory [("bin", bin), ("local", directory [("bin", directory [])])]),
      ("var", directory [])],
    [Text.encode "tmp", Text.encode "work"]⟩

end FontSubset.Host

import FontSubset.Process
/-! How a program is found: a name without a slash is looked for along the search path. -/
namespace FontSubset.Host
open Files (Fault)

def defaultSearchPath : String := "/bin:/usr/bin"

def candidates (environment : Environment) (name : Bytes) : List Path :=
  if name.contains Path.slash then [⟨name⟩]
  else
    let searchPath := (environment.get? (Text.encode "PATH")).getD (Text.encode defaultSearchPath)
    (searchPath.splitOn 0x3A).map fun directory =>
      if directory.isEmpty then ⟨name⟩ else ⟨directory ++ Path.slash :: name⟩

def isSkipped : Fault → Bool
  | .notFound | .notADirectory | .permissionDenied => true
  | _ => false

/-- Tries one candidate after the other; a denied permission outlasts later faults. -/
def tryAll (execute : Path → Except Fault Performance) (last : Fault) :
    List Path → Except Fault Performance
  | [] => .error last
  | path :: rest =>
    match execute path with
    | .ok performance => .ok performance
    | .error fault =>
      if isSkipped fault then
        tryAll execute (if last = .permissionDenied then last else fault) rest
      else .error fault

def search (execute : Path → Task → Except Fault Performance) (task : Task) :
    Except Fault Performance :=
  let name := task.words.headD []
  if task.words.any (·.contains 0) then .error .nulInArgument
  else if name.isEmpty then .error .notFound
  else if name.contains Path.slash then execute ⟨name⟩ task
  else if Files.nameLimit < name.length then .error .nameTooLong
  else tryAll (execute · task) .notFound (candidates task.environment name)

end FontSubset.Host

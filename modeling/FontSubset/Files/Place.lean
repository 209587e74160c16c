import FontSubset.Files.Fault
import FontSubset.Files.Node
import FontSubset.Preflight
/-! Where a path leads. Links are followed, a dot stays, two dots go up from where the
walk has come to, and whatever is passed through has to be a directory. -/
namespace FontSubset

structure Files where
  top : Files.Node
  here : Files.Location
  deriving Repr, Inhabited

namespace Files

def linkLimit : Nat := 40

def nameLimit : Nat := 255

/-- A path is shorter than this. -/
def pathLimit : Nat := 4096

/-- Where a path leads: a location, and what is there. Only the last name of a path may
lead to nothing. -/
structure Place where
  location : Location
  node? : Option Node
  deriving Repr

/-- Walks from the directory at `here`. A link at the end is followed if `follow`. -/
def walk (top : Node) (follow : Bool) (links : Nat) (here : Location) (steps : List Bytes) :
    Except Fault Place :=
  match steps with
  | [] => .ok ⟨here, top.at? here⟩
  | step :: rest =>
    match top.at? here with
    | some (.directory entries) =>
      if step = [] ∨ step = [Path.dot] then walk top follow links here rest
      else if step = [Path.dot, Path.dot] then walk top follow links here.dropLast rest
      else if nameLimit < step.length then .error .nameTooLong
      else match (Node.directory entries).child? step with
        | none => if rest = [] then .ok ⟨here ++ [step], none⟩ else .error .notFound
        | some (.directory _) => walk top follow links (here ++ [step]) rest
        | some (.link target) =>
          if rest = [] ∧ !follow then .ok ⟨here ++ [step], some (.link target)⟩
          else match links with
            | 0 => .error .tooManyLinks
            | links + 1 =>
              walk top follow links (if (Path.mk target).isAbsolute then [] else here)
                (Path.segmentsOf target ++ rest)
        | some node =>
          if rest = [] then .ok ⟨here ++ [step], some node⟩ else .error .notADirectory
    | _ => .error .notADirectory
termination_by (links, steps.length)

def spellingFault? (path : Path) : Option Fault :=
  if path.bytes.contains 0 then some .nulInPath
  else if path.bytes = [] then some .notFound
  else if pathLimit ≤ path.bytes.length then some .nameTooLong
  else none

def place (files : Files) (follow : Bool) (path : Path) : Except Fault Place :=
  match spellingFault? path with
  | some fault => .error fault
  | none =>
    walk files.top follow linkLimit (if path.isAbsolute then [] else files.here)
      (Path.segmentsOf path.bytes)

def find (files : Files) (path : Path) : Except Fault Node := do
  let place ← files.place true path
  match place.node? with
  | some node => return node
  | none => .error .notFound

/-- Whatever keeps a path from being resolved, nothing is there. -/
def presence (files : Files) (path : Path) : Presence :=
  match files.find path with
  | .ok node => if node.isFile then .file else .other
  | .error _ => .missing

def endlessLength : Nat := 1048576

def read (files : Files) (path : Path) : Except Fault Bytes := do
  match ← files.find path with
  | .file bytes _ => return bytes
  | .directory _ => .error .isADirectory
  | .device .zeros => return List.replicate endlessLength 0
  | _ => return []

def descriptor? (files : Files) (path : Path) : Option Nat :=
  match files.find path with
  | .ok (.device (.descriptor n)) => some n
  | _ => none

end Files
end FontSubset

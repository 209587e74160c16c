import FontSubset.Files.Place
/-! Changes to a file tree. -/
namespace FontSubset.Files

def put (files : Files) (location : Location) (node : Node) : Files :=
  { files with top := files.top.alter (fun _ => some node) location }

def drop (files : Files) (location : Location) : Files :=
  { files with top := files.top.alter (fun _ => none) location }

/-- Writes a file, through links if there are any. What was executable stays so. -/
def write (files : Files) (path : Path) (bytes : Bytes) (executable : Bool) :
    Except Fault Files := do
  let place ← files.place true path
  match place.node? with
  | none => return files.put place.location (.file bytes executable)
  | some (.file _ was) => return files.put place.location (.file bytes (was || executable))
  | some (.directory _) => .error .isADirectory
  | some _ => return files

def append (files : Files) (path : Path) (bytes : Bytes) : Except Fault Files := do
  let place ← files.place true path
  match place.node? with
  | none => return files.put place.location (.file bytes false)
  | some (.file old executable) => return files.put place.location (.file (old ++ bytes) executable)
  | some (.directory _) => .error .isADirectory
  | some _ => return files

/-- The paths that lead to `path`, shortest first, itself included. -/
def approaches (path : Path) : List Path :=
  let segments := Path.segmentsOf path.bytes
  (List.range segments.length).map fun k => ⟨[Path.slash].intercalate (segments.take (k + 1))⟩

def makeDirectory (files : Files) (path : Path) : Except Fault Files :=
  if path.bytes = [] then .ok files
  else do
    let place ← files.place true path
    match place.node? with
    | none => return files.put place.location .emptyDirectory
    | some (.directory _) => return files
    | some _ => .error .exists

def makeDirectories (files : Files) (path : Path) : Except Fault Files :=
  (approaches path).foldlM makeDirectory files

def parent? (path : Path) : Option Path :=
  match (Path.segmentsOf path.bytes).dropLast with
  | [] => none
  | segments => some ⟨[Path.slash].intercalate segments⟩

def makeParents (files : Files) (path : Path) : Except Fault Files :=
  match parent? path with
  | some parent => files.makeDirectories parent
  | none => .ok files

def makeLink (files : Files) (path target : Path) : Except Fault Files := do
  let place ← files.place false path
  match place.node? with
  | none => return files.put place.location (.link target.bytes)
  | some _ => .error .exists

def remove (files : Files) (path : Path) : Except Fault Files := do
  let place ← files.place false path
  match place.node? with
  | some _ => return files.drop place.location
  | none => .error .notFound

def rename (files : Files) (path target : Path) : Except Fault Files := do
  let source ← files.place false path
  let place ← files.place false target
  match source.node? with
  | some node => return (files.drop source.location).put place.location node
  | none => .error .notFound

def nested (name : Bytes) (fileName : Option Bytes) : Nat → Node
  | 0 => .emptyDirectory
  | levels + 1 =>
    let files := fileName.toList.map fun file => (file, Node.file [] false)
    .directory (files ++ if levels = 0 then [] else [(name, nested name fileName levels)])

def putNested (files : Files) (name : Bytes) (fileName : Option Bytes) (levels : Nat) : Files :=
  if levels = 0 then files
  else files.put (files.here ++ [name]) (nested name fileName levels)

end FontSubset.Files

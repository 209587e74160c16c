import FontSubset.Event
import FontSubset.Files.Place
/-! The recursive scan for fonts. The entries of a directory are taken by the bytes of
their names; links below the root are passed over; a directory that cannot be listed is
noted and passed over too. -/
namespace FontSubset.Files

def inNameOrder (seen : List (Bytes × List ScanEvent)) : List ScanEvent :=
  (seen.mergeSort fun a b => (compare a.1 b.1).isLE).flatMap (·.2)

mutual

def sightings (refused : Path → Option Fault) (path : Path) : Node → List ScanEvent
  | .file .. | .program _ => if Font.qualifies path then [.found path] else []
  | .directory entries =>
    match refused path with
    | some fault => [.unreadable path fault.message]
    | none => inNameOrder (entrySightings refused path entries)
  | .link _ | .device _ => []

def entrySightings (refused : Path → Option Fault) (path : Path) :
    List (Bytes × Node) → List (Bytes × List ScanEvent)
  | [] => []
  | (name, node) :: rest =>
    (name, sightings refused (path.join ⟨name⟩) node) :: entrySightings refused path rest

end

def fontsSeen (events : List ScanEvent) : List Font :=
  events.filterMap fun
    | .found path => some ⟨path⟩
    | .unreadable .. => none

/-- Scans the directory at `root`, itself perhaps behind a link; `refused` tells which
directories cannot be listed. -/
def scan (files : Files) (refused : Path → Option Fault) (root : Path) :
    Except ScanError (List Font) × List ScanEvent :=
  match files.find root with
  | .error .notFound => (.error (.rootNotFound root), [])
  | .error fault => (.error (.io fault.message), [])
  | .ok node =>
    if node.isDirectory then
      let events := sightings refused root node
      (.ok (fontsSeen events), events)
    else (.error (.notADirectory root), [])

/-- A directory is listed by its path, so one with too long a path cannot be. -/
def longPath (path : Path) : Option Fault :=
  if pathLimit ≤ path.bytes.length then some .nameTooLong else none

end FontSubset.Files

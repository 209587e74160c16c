import FontSubset.Text.Utf8
/-! File paths as byte strings. A path keeps its spelling; what it means is its
list of components, in which repeated slashes and inner dots leave no trace. -/
namespace FontSubset

structure Path where
  bytes : Bytes
  deriving DecidableEq, Repr, Inhabited

/-- A step of a path. The dot is one only at the front. -/
inductive Component
  | root
  | here
  | parent
  | name (bytes : Bytes)
  deriving DecidableEq, Repr

namespace Path

def slash : UInt8 := 0x2F
def dot : UInt8 := 0x2E

def ofString (text : String) : Path := ⟨Text.encode text⟩

instance : Coe String Path := ⟨ofString⟩

def display (path : Path) : String := Text.lossy path.bytes

def text? (path : Path) : Option String := Text.decode? path.bytes

def segmentsOf (bytes : Bytes) : List Bytes := bytes.splitOn slash

def isAbsolute (path : Path) : Bool := path.bytes.head? == some slash

/-- A stretch after the first: empty ones and dots say nothing. -/
def stepOf (segment : Bytes) : Option Component :=
  if segment = [] ∨ segment = [dot] then none
  else if segment = [dot, dot] then some .parent
  else some (.name segment)

def components (path : Path) : List Component :=
  match segmentsOf path.bytes with
  | [] => []
  | front :: rest =>
    let steps := rest.filterMap stepOf
    if path.isAbsolute then .root :: steps
    else if front = [dot] then .here :: steps
    else (stepOf front).toList ++ steps

def fileName? (path : Path) : Option Bytes :=
  match path.components.getLast? with
  | some (.name bytes) => some bytes
  | _ => none

/-- What follows the last dot of a name that does not begin with that dot. -/
def extensionOf (name : Bytes) : Option Bytes :=
  match name.reverse.dropWhile (· ≠ dot) with
  | _ :: _ :: _ => some (name.reverse.takeWhile (· ≠ dot)).reverse
  | _ => none

def extension? (path : Path) : Option Bytes := path.fileName?.bind extensionOf

/-- `path` as seen from `base`: an absolute path stands for itself. -/
def join (base path : Path) : Path :=
  if path.isAbsolute then path
  else if base.bytes = [] ∨ base.bytes.getLast? = some slash then ⟨base.bytes ++ path.bytes⟩
  else ⟨base.bytes ++ slash :: path.bytes⟩

end Path
end FontSubset

import FontSubset.Path.Basic
/-! A file tree. A directory is a list of named nodes in no particular order, and a
location is the list of names that leads to a node from the top. -/
namespace FontSubset.Files

/-- Something to read from and write to that is no file: nothing at all, zeros without end, or a
descriptor of whoever opens it. -/
inductive Device
  | null
  | zeros
  | descriptor (n : Nat)
  deriving DecidableEq, Repr, Inhabited

inductive Node
  | file (bytes : Bytes) (isExecutable : Bool)
  | program (name : String)
  | directory (entries : List (Bytes × Node))
  | link (target : Bytes)
  | device (device : Device)
  deriving Repr, Inhabited

abbrev Location := List Bytes

namespace Node

def emptyDirectory : Node := directory []

def entries : Node → List (Bytes × Node)
  | directory entries => entries
  | _ => []

def isDirectory : Node → Bool
  | directory _ => true
  | _ => false

def isFile : Node → Bool
  | file .. | program _ => true
  | _ => false

def child? (name : Bytes) (node : Node) : Option Node :=
  (node.entries.find? fun entry => entry.1 == name).map (·.2)

def at? : Location → Node → Option Node
  | [], node => some node
  | name :: rest, node => (node.child? name).bind (at? rest)

def insert (name : Bytes) (node : Node) : List (Bytes × Node) → List (Bytes × Node)
  | [] => [(name, node)]
  | entry :: rest => if entry.1 = name then (name, node) :: rest else entry :: insert name node rest

def erase (name : Bytes) (entries : List (Bytes × Node)) : List (Bytes × Node) :=
  entries.filter fun entry => entry.1 ≠ name

/-- Changes the node at a location; `none` stands for no node, before and after. -/
def alter (change : Option Node → Option Node) : Location → Node → Node
  | [], node => (change (some node)).getD node
  | [name], node =>
    match change (node.child? name) with
    | some new => directory (insert name new node.entries)
    | none => directory (erase name node.entries)
  | name :: rest, node =>
    match node.child? name with
    | some child => directory (insert name (alter change rest child) node.entries)
    | none => node

end Node
end FontSubset.Files

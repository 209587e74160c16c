import FontSubset.Shell.Condition
import FontSubset.Shell.Script
import FontSubset.Shell.State
/-! What the name of a command means: a keyword, a function, a command of the shell itself, or a
program on the search path. -/
namespace FontSubset.Shell
open Files (Fault)

def regularNames : List String :=
  ["[", "alias", "bg", "cd", "command", "echo", "false", "fg", "getopts", "hash", "jobs", "kill",
    "local", "printf", "pwd", "read", "test", "true", "type", "ulimit", "umask", "unalias", "wait"]

inductive Meaning
  | keyword
  | function (body : Command)
  | builtin (isSpecial : Bool)
  | program (path : String)

namespace State

def function? (state : State) (name : String) : Option Command :=
  (state.functions.find? (·.1 == name)).map (·.2)

def candidates (state : State) (name : String) : List String :=
  (((state.lookup "PATH").getD "").toList.splitOn ':').map fun directory =>
    if directory.isEmpty then name else String.ofList directory ++ "/" ++ name

/-- The path of a program. A name with a slash is one; all others are looked for along the
search path. Something there that is no file is not denied to exist. -/
def pathOf (state : State) (name : String) : Except Fault String :=
  if name.toList.contains '/' then .ok name
  else
    let found := (state.candidates name).filter fun path =>
      (Condition.nodeAt? state.files path).isSome
    match found.find? fun path => (Condition.nodeAt? state.files path).any Files.Node.isFile with
    | some path => .ok path
    | none => .error (if found.isEmpty then .notFound else .permissionDenied)

def meaning? (state : State) (name : String) : Option Meaning :=
  if Lexeme.keywords.contains name then some .keyword
  else if specialNames.contains name then some (.builtin true)
  else
    match state.function? name with
    | some body => some (.function body)
    | none =>
      if regularNames.contains name then some (.builtin false)
      else
        match state.pathOf name with
        | .ok path => if (Condition.nodeAt? state.files path).isSome then some (.program path) else none
        | .error _ => none

end State

namespace Meaning

def description (name : String) : Meaning → String
  | keyword => name ++ " is a shell keyword"
  | function _ => name ++ " is a shell function"
  | builtin true => name ++ " is a special shell builtin"
  | builtin false => name ++ " is a shell builtin"
  | program path => name ++ " is " ++ path

def call (name : String) : Meaning → String
  | program path => path
  | _ => name

end Meaning
end FontSubset.Shell

import FontSubset.Shell.Run
/-! Programs of the machine, and how they read their words. -/
namespace FontSubset.Host
open Shell (Starter)

abbrev Program := Starter → Task → Performance

def words (task : Task) : List String := task.words.map Text.octets

def complainTo (task : Task) (code : Nat) (text : String) : Performance :=
  task.finish code [(.stderr, Text.ofOctets text)]

structure Call where
  switches : List Char
  values : List (Char × String)
  operands : List String

namespace Call

def has (call : Call) (letter : Char) : Bool := call.switches.contains letter

def value? (call : Call) (letter : Char) : Option String :=
  (call.values.reverse.find? (·.1 == letter)).map (·.2)

def readLetters (switches valued : List Char) (call : Call) :
    List Char → Except String (Call × Option Char)
  | [] => .ok (call, none)
  | letter :: rest =>
    if switches.contains letter then
      readLetters switches valued { call with switches := call.switches ++ [letter] } rest
    else if valued.contains letter then
      if rest.isEmpty then .ok (call, some letter)
      else .ok ({ call with values := call.values ++ [(letter, String.ofList rest)] }, none)
    else .error ("invalid option -- '" ++ String.singleton letter ++ "'")

def readFrom (switches valued : List Char) (pending : Option Char) (call : Call) :
    List String → Except String Call
  | [] =>
    match pending with
    | some letter => .error ("option requires an argument -- '" ++ String.singleton letter ++ "'")
    | none => .ok call
  | word :: rest =>
    match pending, word.toList with
    | some letter, _ =>
      readFrom switches valued none { call with values := call.values ++ [(letter, word)] } rest
    | none, ['-', '-'] => .ok { call with operands := call.operands ++ rest }
    | none, '-' :: '-' :: _ => .error ("unrecognized option '" ++ word ++ "'")
    | none, '-' :: letter :: letters => do
      let (call, pending) ← readLetters switches valued call (letter :: letters)
      readFrom switches valued pending call rest
    | none, _ =>
      readFrom switches valued none { call with operands := call.operands ++ [word] } rest

end Call

/-- A program that takes switches and options with values, each a letter; `code` is the
status after a mistake in them. -/
def withOptions (code : Nat) (switches valued : String) (run : Task → Call → Performance) :
    Program := fun _ task =>
  let name := (words task).headD ""
  match Call.readFrom switches.toList valued.toList none ⟨[], [], []⟩ (words task).tail with
  | .ok call => run task call
  | .error text =>
    complainTo task code
      (name ++ ": " ++ text ++ "\nTry '" ++ name ++ " --help' for more information.\n")

end FontSubset.Host
